/-!
# Styles of word lists

How a name is cut into words, and how the case of the words is set. Each style has one name, and
the lists of names are in the order in which they are shown to the user.
-/
namespace StatusLine

inductive WordFormat
  | camel
  | kebab
  | pascal
  | snake
  | space
  | noSplitting
  deriving DecidableEq, Repr

namespace WordFormat

def all : List WordFormat := [camel, kebab, noSplitting, pascal, snake, space]

def name : WordFormat → String
  | camel => "camel"
  | kebab => "kebab"
  | pascal => "pascal"
  | snake => "snake"
  | space => "space"
  | noSplitting => "no-splitting"

def names : List String := all.map name

def ofName? (s : String) : Option WordFormat := all.find? (·.name == s)

theorem ofName?_name (f : WordFormat) : ofName? f.name = some f := by cases f <;> decide

end WordFormat

inductive WordCasing
  | low
  | unchanged
  | up
  | upFirst
  | upWord
  | upWordExceptFirst
  deriving DecidableEq, Repr

namespace WordCasing

def all : List WordCasing := [low, unchanged, up, upFirst, upWord, upWordExceptFirst]

def name : WordCasing → String
  | low => "low"
  | unchanged => "unchanged"
  | up => "up"
  | upFirst => "upFirst"
  | upWord => "upWord"
  | upWordExceptFirst => "upWordExceptFirst"

def names : List String := all.map name

def ofName? (s : String) : Option WordCasing := all.find? (·.name == s)

theorem ofName?_name (c : WordCasing) : ofName? c.name = some c := by cases c <;> decide

end WordCasing
end StatusLine
