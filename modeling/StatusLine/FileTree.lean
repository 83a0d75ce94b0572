import StatusLine.Text.Pieces

/-!
# File trees

What stands at each path below a root: nothing, a directory or a file with its text. A path is
walked name by name as the system does it. Empty names and dots stay where they are, two dots lead
to the directory around, and every step, also one that stays, is made from a directory. Names of
more than 255 bytes and paths of 4096 bytes or more are refused.
-/
namespace StatusLine

inductive FileTree.Entry
  | directory
  | file (text : String)
  deriving DecidableEq, Repr

/-- What stands at the plain paths, those without empty names and dots. -/
def FileTree : Type := List String → Option FileTree.Entry

namespace FileTree

def empty : FileTree := fun path => if path = [] then some .directory else none

/-- Puts an entry at a plain path. Directories on the way are made where there are none, and what
stood below a path that is now a file is gone. -/
def put (t : FileTree) (path : List String) (e : Entry) : FileTree := fun p =>
  if p = path then some e
  else if p.isPrefixOf path then some .directory
  else if path.isPrefixOf p && e != .directory then none
  else t p

def names (text : String) : List String :=
  (Pieces.splitWhere (· == '/') text.toList).map String.ofList

def plain (path : List String) : List String :=
  path.foldl
    (fun here name =>
      if name = "" ∨ name = "." then here
      else if name = ".." then here.dropLast
      else here ++ [name])
    []

def record (t : FileTree) (path : List String) (e : Entry) : FileTree :=
  ((List.range path.length).foldl (fun t n => t.put (plain (path.take n)) .directory) t).put
    (plain path) e

inductive Found
  | nothing
  | refused
  | entry (e : Entry)
  deriving DecidableEq, Repr

def maxName : Nat := 255

def maxPath : Nat := 4095

def walk (t : FileTree) : (here path : List String) → Found
  | here, [] => (t here).elim .nothing .entry
  | here, name :: path =>
    if t here ≠ some .directory then .nothing
    else if name = "" ∨ name = "." then t.walk here path
    else if name = ".." then t.walk here.dropLast path
    else if maxName < name.utf8ByteSize then .refused
    else t.walk (here ++ [name]) path

def find (t : FileTree) (path : List String) : Found :=
  if maxPath < ("/" ++ "/".intercalate path).utf8ByteSize then .refused else t.walk [] path

example : names "refs//heads/./main" = ["refs", "", "heads", ".", "main"] := by decide
example : plain ["a", "", "..", "b", "."] = ["b"] := by decide

example :
    (empty.record ["a", "..", "b"] (.file "text")).find ["a", "..", "b"] = .entry (.file "text") ∧
      (empty.put ["b"] (.file "text")).find ["a", "..", "b"] = .nothing := by
  decide

example :
    let t := empty.put ["a", "b"] (.file "text")
    t.find ["a", ".", "", "..", "a", "b"] = .entry (.file "text") ∧
      t.find ["a", "b", ""] = .nothing ∧ t.find ["a", "b", "..", "b"] = .nothing := by
  decide

end FileTree
end StatusLine
