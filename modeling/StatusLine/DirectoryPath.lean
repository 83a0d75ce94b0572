import StatusLine.Text.Pieces
import StatusLine.Text.Utf8

/-!
# Directory paths

A path is a list of bytes. Its components are its names between slashes, the root, steps to the
parent, and a leading dot of a relative path; empty pieces and other dots do not count. Going up
takes the last component away until the root or nothing is left.
-/
namespace StatusLine

inductive Component
  | root
  | current
  | parent
  | name (bytes : List UInt8)
  deriving DecidableEq, Repr

namespace DirectoryPath

def slash : UInt8 := 0x2F
def dot : UInt8 := 0x2E

/-- A piece between slashes; `leading` is the first piece of a relative path. -/
def ofPiece (leading : Bool) (piece : List UInt8) : Option Component :=
  if piece.isEmpty then none
  else if piece = [dot] then if leading then some .current else none
  else if piece = [dot, dot] then some .parent
  else some (.name piece)

def components (path : List UInt8) : List Component :=
  match Pieces.splitWhere (· == slash) path with
  | [] => []
  | first :: rest =>
    let tail := rest.filterMap (ofPiece false)
    if path.head? = some slash then .root :: tail else (ofPiece true first).toList ++ tail

def up? : List Component → Option (List Component)
  | [] | .root :: _ => none
  | _ :: cs => some cs

def climb : Nat → List Component → List Component
  | 0, cs => cs
  | n + 1, cs =>
    match up? cs with
    | some cs => climb n cs
    | none => cs

def nameAbove? (levels : Nat) (path : List UInt8) : Option (List UInt8) :=
  match climb levels (components path).reverse with
  | .name bytes :: _ => some bytes
  | _ => none

def display (path : List UInt8) : String := Utf8.decode path

theorem climb_nil (n : Nat) : climb n [] = [] := by cases n <;> rfl

example : components [0x2F, 0x61, 0x2F, 0x2F, 0x62, 0x2F, 0x2E, 0x2F, 0x63, 0x2F] =
    [.root, .name [0x61], .name [0x62], .name [0x63]] := by decide
example : components [0x2E, 0x2F, 0x61, 0x2F, 0x2E, 0x2E] =
    [.current, .name [0x61], .parent] := by decide
example : nameAbove? 1 [0x2F, 0x61, 0x2F, 0x62] = some [0x61] := by decide
example : nameAbove? 2 [0x2F, 0x61, 0x2F, 0x62] = none := by decide

end DirectoryPath
end StatusLine
