import StatusLine.Text.Pieces

/-!
# Names of references

A name is made of segments between slashes. Which characters and segments are allowed, and that a
name of one segment is in capitals (`HEAD`) while a longer name does not begin with such a segment,
are the rules of git. `normalize?` also drops empty segments; a name is valid if nothing is dropped.
Names that are looked up have at most 1023 bytes.
-/
namespace StatusLine.Git.RefName

def isAllowed (c : Char) : Bool :=
  ' ' < c && c != '\x7f' && c != '~' && c != '^' && c != ':' && c != '\\' && c != '?' && c != '[' &&
    c != '*'

def hasPair (a b : Char) : List Char → Bool
  | c :: d :: cs => (c == a && d == b) || hasPair a b (d :: cs)
  | _ => false

def lockEnd : List Char := ".lock".toList

def isAllowedSegment (s : List Char) : Bool :=
  s.head? != some '.' && s.all isAllowed && !hasPair '.' '.' s && !hasPair '@' '{' s &&
    !lockEnd.isSuffixOf s

def isCapitals (s : List Char) : Bool :=
  s.all (fun c => ('A' ≤ c && c ≤ 'Z') || c == '_') &&
    s.head? != some '_' && s.getLast? != some '_'

def normalize? (name : String) : Option String :=
  let segments := Pieces.splitWhere (· == '/') name.toList
  let kept := segments.filter (!·.isEmpty)
  let first := segments.head?.getD []
  let last := segments.getLast?.getD []
  if !first.isEmpty && !last.isEmpty && segments.all isAllowedSegment &&
      last.getLast? != some '.' && (kept.length == 1) == isCapitals first then
    some (String.ofList (['/'].intercalate kept))
  else none

def isValid (name : String) : Bool := normalize? name == some name

def maxBytes : Nat := 1023

def fits (name : String) : Bool := name.utf8ByteSize ≤ maxBytes

def branchStart : List Char := "refs/heads/".toList

def branch? (name : String) : Option String :=
  if branchStart.isPrefixOf name.toList then
    some (String.ofList (name.toList.drop branchStart.length))
  else none

def candidates (name : String) : List String :=
  [name, "refs/" ++ name, "refs/tags/" ++ name, "refs/heads/" ++ name, "refs/remotes/" ++ name,
   "refs/remotes/" ++ name ++ "/HEAD"]

example : isValid "HEAD" = true ∧ isValid "refs/heads/a.b" = true := by decide
example : isValid "head" = false ∧ isValid "refs/heads/a..b" = false ∧
    isValid "refs/heads/a\x7f" = false := by decide
example : normalize? "refs//heads/x" = some "refs/heads/x" ∧ normalize? "refs/heads/" = none := by
  decide
example : branch? "refs/heads/a/b" = some "a/b" ∧ branch? "refs/tags/v1" = none := by decide

end StatusLine.Git.RefName
