import StatusLine.Status

/-!
# Commands

What the user can ask the program to do. Indices count from one.
-/
namespace StatusLine

inductive Command
  | render (template : String)
  | parse (template : String)
  | listTemplates
  | addTemplate (label message : String) (availability : Availability)
  | removeTemplate (index : Nat)
  | use (index : Nat)
  | history (clear : Bool)
  | bookmarks
  | bookmark
  deriving DecidableEq, Repr

end StatusLine
