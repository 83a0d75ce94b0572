/-!
# What a reference holds

The text of a reference's file is `ref: ` and the name of another reference, or an object identifier
of forty hexadecimal digits. Any name will do; space at its end is cut, and it ends at a null
character.
-/
namespace StatusLine.Git

inductive Target
  | symbolic (name : String)
  | direct (id : String)
  deriving DecidableEq, Repr

namespace Target

def isSpace (c : Char) : Bool := c == ' ' || ('\t' ≤ c && c ≤ '\r')

def isHex (c : Char) : Bool := ('0' ≤ c && c ≤ '9') || ('a' ≤ c && c ≤ 'f') || ('A' ≤ c && c ≤ 'F')

def null : Char := '\x00'

def trimEnd (cs : List Char) : List Char := (cs.reverse.dropWhile isSpace).reverse

def symbolicStart : List Char := "ref: ".toList

def idLength : Nat := 40

def id? (cs : List Char) : Option (String × List Char) :=
  let id := cs.take idLength
  if id.length = idLength ∧ id.all isHex then
    some (String.ofList (id.map Char.toLower), cs.drop idLength)
  else none

def ofText? (text : String) : Option Target :=
  let cs := text.toList
  if symbolicStart.isPrefixOf cs then
    let name := (trimEnd cs).drop symbolicStart.length
    if name.isEmpty then none else some (.symbolic (String.ofList (name.takeWhile (· != null))))
  else
    match id? cs with
    | some (id, rest) =>
      if rest.head?.all fun c => isSpace c || c == null then some (.direct id) else none
    | none => none

example : ofText? "ref: refs/heads/main\n" = some (.symbolic "refs/heads/main") := by decide
example : ofText? "ref: a\x00b" = some (.symbolic "a") := by decide
example : ofText? "ref: \n" = none ∧ ofText? "main\n" = none := by decide

end Target
end StatusLine.Git
