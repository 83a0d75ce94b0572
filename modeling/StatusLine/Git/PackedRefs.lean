import StatusLine.Git.Target
import StatusLine.Text.Pieces

/-!
# Packed references

One text holds many references: on each line an identifier, a blank and a name. Lines that begin
with `#` may stand before them, and after a line one with the identifier of the object that the tag
leads to, marked by `^`. A single line of another shape spoils the text, and so does a null
character. Of two lines with the same name the later one counts.
-/
namespace StatusLine.Git.PackedRefs

def entry? (line : List Char) : Option (String × String) :=
  match Target.id? line with
  | some (id, ' ' :: name) =>
    let name := if name.getLast? = some '\r' then name.dropLast else name
    some (String.ofList name, id)
  | _ => none

/-- Whether a line says where the tag on the line before leads. -/
def isPeeled : List Char → Bool
  | '^' :: line => (Target.id? line).isSome
  | _ => false

/-- The lines after the comments; `fresh` says that no entry stands right before. -/
def entries? (fresh : Bool) : List (List Char) → Option (List (String × String))
  | [] => none
  | [line] => if line.isEmpty then some [] else none
  | line :: lines =>
    if !fresh && isPeeled line then entries? true lines
    else do return (← entry? line) :: (← entries? false lines)

def read? (text : String) : Option (List (String × String)) :=
  if text.toList.contains Target.null then none
  else
    let lines := Pieces.splitWhere (· == '\n') text.toList
    entries? true (lines.dropWhile fun line => line.head? == some '#')

def lookup? (refs : List (String × String)) (name : String) : Option String :=
  refs.reverse.lookup name

example : read? "" = some [] ∧ read? "# packed\n" = some [] ∧ read? "x\n" = none := by decide

end StatusLine.Git.PackedRefs
