import StatusLine.Text.Pieces
import StatusLine.Unicode.Blank
import StatusLine.Unicode.Uppercase
import StatusLine.Words.Style

/-!
# Cutting a name into words

White space separates words in every style but one that does not cut at all; kebab and snake names
have a separator besides, and camel names start a word at each uppercase letter. Separators are
dropped, and nothing else is: two adjacent separators have an empty word between them.
-/
namespace StatusLine.Words
open Unicode Pieces

/-- Cuts at blanks, which are dropped, and before uppercase letters, once a word is `begun`. -/
def splitCapitals (begun : Bool) : List Char → List (List Char)
  | [] => [[]]
  | c :: cs =>
    if isBlank c then [] :: splitCapitals false cs
    else if begun && isUppercase c then [] :: consHead c (splitCapitals true cs)
    else consHead c (splitCapitals true cs)

def split (format : WordFormat) (name : List Char) : List (List Char) :=
  match format with
  | .camel | .pascal => splitCapitals false name
  | .kebab => splitWhere (fun c => c == '-' || isBlank c) name
  | .snake => splitWhere (fun c => c == '_' || isBlank c) name
  | .space => splitWhere isBlank name
  | .noSplitting => [name]

theorem splitCapitals_ne_nil (begun : Bool) (cs : List Char) : splitCapitals begun cs ≠ [] := by
  fun_cases splitCapitals begun cs <;> simp

end StatusLine.Words
