import StatusLine.Text.Pieces

/-!
# Lists written in one text

Pieces stand between separators; a separator inside a piece is written with a backslash before it.
Every other backslash stands for itself, so a text without the separator is one piece.
`split` reads such a text and `join` writes it.
-/
namespace StatusLine.Escaped
open Pieces

def split (sep : Char) : List Char → List (List Char)
  | [] => [[]]
  | [a] => if a = sep then [[], []] else [[a]]
  | a :: b :: cs =>
    if a = '\\' ∧ b = sep then consHead sep (split sep cs)
    else if a = sep then [] :: split sep (b :: cs)
    else consHead a (split sep (b :: cs))

theorem split_ne_nil (sep : Char) (cs : List Char) : split sep cs ≠ [] := by
  fun_cases split sep cs <;> simp

def escape (sep : Char) (cs : List Char) : List Char :=
  cs.flatMap fun c => if c = sep then ['\\', sep] else [c]

def join (sep : Char) (pieces : List (List Char)) : List Char :=
  [sep].intercalate (pieces.map (escape sep))

def pieces (sep : Char) (text : String) : List String := (split sep text.toList).map String.ofList

end StatusLine.Escaped
