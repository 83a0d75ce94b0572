import StatusLine.Unicode.Casing
import StatusLine.Words.Style

/-!
# Setting the case of words

Every casing but `unchanged` starts from words in lower case, and `low` puts them in lower case once
more. The casings that capitalize differ in which words they capitalize, by position.
-/
namespace StatusLine.Words
open Unicode

def mapFirst {α : Type} (f g : α → α) : List α → List α
  | [] => []
  | w :: ws => f w :: ws.map g

def recase (casing : WordCasing) (words : List (List Char)) : List (List Char) :=
  match casing with
  | .unchanged => words
  | .low => (words.map toLower).map toLower
  | .up => (words.map toLower).map toUpper
  | .upFirst => mapFirst capitalize id (words.map toLower)
  | .upWord => (words.map toLower).map capitalize
  | .upWordExceptFirst => mapFirst id capitalize (words.map toLower)

end StatusLine.Words
