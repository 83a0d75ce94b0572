import StatusLine.Git.Target
import StatusLine.Text.Digits

/-!
# Abbreviated identifiers

A name that is no reference can still stand for an object: as the first digits of its identifier, or
as a description that ends in them, `v1.0-12-g81ebd13` for the object `81ebd13…` twelve commits
after a tag. In a description the digits are all that follows the first `-g`.
-/
namespace StatusLine.Git.Abbreviation

def startsMark : List Char → Bool
  | '-' :: cs =>
    match cs.dropWhile Digits.isDigit with
    | '-' :: 'g' :: c :: _ => cs.head?.any Digits.isDigit && Target.isHex c
    | _ => false
  | _ => false

def isDescription : List Char → Bool
  | _ :: c :: cs => startsMark (c :: cs) || isDescription (c :: cs)
  | _ => false

def afterMark? : List Char → Option (List Char)
  | '-' :: 'g' :: cs => some cs
  | _ :: cs => afterMark? cs
  | [] => none

def minDigits : Nat := 4

def digits? (cs : List Char) : Option (List Char) :=
  if minDigits ≤ cs.length ∧ cs.length ≤ Target.idLength ∧ cs.all Target.isHex then
    some (cs.map Char.toLower)
  else none

def ofName? (name : String) : Option (List Char) :=
  let cs := name.toList
  if cs.all Target.isHex then digits? cs
  else if isDescription cs then (afterMark? cs).bind digits?
  else none

def expand? (digits : List Char) (ids : List String) : Option String :=
  match ids.filter fun id => digits.isPrefixOf id.toList with
  | [] => none
  | id :: others => if others.all (· == id) then some id else none

example : ofName? "v1.0-12-g81ebd13" = some "81ebd13".toList ∧
    ofName? "81EB" = some "81eb".toList := by
  decide
example : ofName? "my-gadget-1-g81ebd13" = none ∧ ofName? "-1-g81ebd13" = none ∧
    ofName? "v-1-g81e" = none := by
  decide

end StatusLine.Git.Abbreviation
