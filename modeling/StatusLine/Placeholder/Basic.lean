import StatusLine.Calendar.Rounding
import StatusLine.Words.Style

/-!
# Placeholders

What a placeholder of a template asks for. A field that the placeholder does not set stays empty
here, so that writing a placeholder down gives back what was read; the accessors supply the values
that hold then.
-/
namespace StatusLine

structure DirectoryName where
  offset : Option Int
  format : Option WordFormat
  casing : Option WordCasing
  joiner : Option String
  deriving DecidableEq, Repr

namespace DirectoryName

def empty : DirectoryName := ⟨none, none, none, none⟩

def levels (d : DirectoryName) : Int := d.offset.getD 0
def inputFormat (d : DirectoryName) : WordFormat := d.format.getD .space
def outputCasing (d : DirectoryName) : WordCasing := d.casing.getD .unchanged
def outputJoiner (d : DirectoryName) : String := d.joiner.getD " "

end DirectoryName

inductive GitReference
  | branch
  | commit
  deriving DecidableEq, Repr

namespace GitReference

def all : List GitReference := [branch, commit]

def name : GitReference → String
  | branch => "branch"
  | commit => "commit"

def names : List String := all.map name

def ofName? (s : String) : Option GitReference := all.find? (·.name == s)

theorem ofName?_name (r : GitReference) : ofName? r.name = some r := by cases r <;> decide

end GitReference

/-- A value that the user is asked for: one of the mandatory values, or anything at all with the
optional values as suggestions. -/
structure InputChoice where
  mandatory : Option (List String)
  optional : Option (List String)
  deriving DecidableEq, Repr

def InputChoice.empty : InputChoice := ⟨none, none⟩

structure ClockTime where
  offset : Option Int
  round : Option Rounding
  format : Option String
  deriving DecidableEq, Repr

namespace ClockTime

def empty : ClockTime := ⟨none, none, none⟩

def shift (t : ClockTime) : Int := t.offset.getD 0
def pattern (t : ClockTime) : String := t.format.getD "[HH]:[MM]"

end ClockTime

inductive Placeholder
  | directory (d : DirectoryName)
  | git (r : GitReference)
  | input (i : InputChoice)
  | time (t : ClockTime)
  deriving DecidableEq, Repr

def Placeholder.letter : Placeholder → Char
  | .directory _ => 'd'
  | .git _ => 'g'
  | .input _ => 'i'
  | .time _ => 't'

end StatusLine
