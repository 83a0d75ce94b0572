import StatusLine.Unicode.CaseMap
import StatusLine.Unicode.WordContext

/-!
# Case of texts

Upper case maps each character on its own. Lower case does too, but a capital sigma that ends a
word becomes the final form: a cased letter precedes it and none follows, ignorable characters
skipped on both sides.
-/
namespace StatusLine.Unicode

def toUpper (cs : List Char) : List Char := cs.flatMap upper

/-- The rest of a text in lower case, given what precedes it, nearest character first. -/
def lowerAfter (before : List Char) : List Char → List Char
  | [] => []
  | c :: cs =>
    (if c = 'Σ' then [if meetsCased before && !meetsCased cs then 'ς' else 'σ'] else lower c) ++
      lowerAfter (c :: before) cs

def toLower (cs : List Char) : List Char := lowerAfter [] cs

def capitalize : List Char → List Char
  | [] => []
  | c :: cs => upper c ++ cs

@[simp] theorem toLower_nil : toLower [] = [] := rfl

@[simp] theorem capitalize_nil : capitalize [] = [] := rfl

end StatusLine.Unicode
