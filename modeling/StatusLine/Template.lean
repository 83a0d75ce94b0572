import StatusLine.Placeholder.Modifier

/-!
# Templates

A template is text with placeholders between braces. A brace after a backslash is text, also inside
a placeholder, and the backslash is dropped; every other backslash stays. Placeholders do not nest.
`marks` takes the escapes away, `scan` cuts the marks into segments, and `split` does both.
-/
namespace StatusLine

inductive Segment
  | text (s : String)
  | placeholder (p : Placeholder)
  deriving DecidableEq, Repr

/-- A character of a template once escapes are resolved. -/
inductive Mark
  | opening
  | closing
  | plain (c : Char)
  deriving DecidableEq, Repr

namespace Mark

def ofChar (c : Char) : Mark :=
  if c = '{' then opening else if c = '}' then closing else plain c

def ofText : List Char → List Mark
  | [] => []
  | [c] => [ofChar c]
  | a :: b :: cs =>
    if a = '\\' ∧ (b = '{' ∨ b = '}') then plain b :: ofText cs else ofChar a :: ofText (b :: cs)

end Mark

namespace Template

/-- Where a scan stands: outside placeholders or in one, with what it has read there, last
character first. -/
inductive State
  | outside (text : List Char)
  | inside (body : List Char)

def flush (text : List Char) : List Segment :=
  if text.isEmpty then [] else [.text (String.ofList text.reverse)]

/-- Cuts marks into segments; `template` is only named in faults. -/
def scan (template : String) : State → List Mark → Except Fault (List Segment)
  | .outside text, [] => .ok (flush text)
  | .inside _, [] => .error (.braceUnclosed template)
  | .outside text, .plain c :: ms => scan template (.outside (c :: text)) ms
  | .inside body, .plain c :: ms => scan template (.inside (c :: body)) ms
  | .outside text, .opening :: ms => do
    return flush text ++ (← scan template (.inside []) ms)
  | .inside _, .opening :: _ => .error (.braceNested template)
  | .outside _, .closing :: _ => .error (.braceStray template)
  | .inside body, .closing :: ms => do
    let p ← Placeholder.read body.reverse
    return .placeholder p :: (← scan template (.outside []) ms)

def split (template : String) : Except Fault (List Segment) :=
  scan template (.outside []) (Mark.ofText template.toList)

example : split "a \\\x7b b" = .ok [.text "a \x7b b"] := rfl
example : split "on \x7bg?branch\x7d" = .ok [.text "on ", .placeholder (.git .branch)] := rfl
example : split "\x7d" = .error (.braceStray "\x7d") := rfl

end Template
end StatusLine
