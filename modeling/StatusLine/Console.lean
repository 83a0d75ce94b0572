/-!
# Console text

What is printed for an error, a success, a note, a heading and a numbered list. Coloured text
begins with the code of its colour and ends with a reset; a reset inside it is followed by the code
again.
-/
namespace StatusLine.Console

inductive Colour
  | red
  | green
  | white
  | brightBlack
  deriving DecidableEq, Repr

def escape : String := "\x1b["

def reset : List Char := ['\x1b', '[', '0', 'm']

def Colour.code : Colour → String
  | red => escape ++ "31m"
  | green => escape ++ "32m"
  | white => escape ++ "37m"
  | brightBlack => escape ++ "90m"

def afterResets (code : List Char) : List Char → List Char
  | '\x1b' :: '[' :: '0' :: 'm' :: cs => reset ++ code ++ afterResets code cs
  | c :: cs => c :: afterResets code cs
  | [] => []

def paint (coloured : Bool) (c : Colour) (text : String) : String :=
  if coloured then
    c.code ++ String.ofList (afterResets c.code.toList text.toList ++ reset)
  else text

def error (coloured : Bool) (message : String) : String :=
  "\n" ++ paint coloured .red "✕ Error:" ++ " " ++ paint coloured .white message ++ "\n\n"

def success (coloured : Bool) (message : String) : String :=
  "\n" ++ paint coloured .green "✓" ++ " " ++ paint coloured .white message ++ "\n"

def note (coloured : Bool) (message : String) : String :=
  "\n" ++ paint coloured .white message ++ "\n\n"

def heading (coloured : Bool) (text : String) : String :=
  "\n" ++ paint coloured .white text ++ ":\n\n"

def number (n : Nat) : String :=
  let s := toString n
  if s.length < 2 then " " ++ s else s

def line (coloured : Bool) (n : Nat) (text : String) : String :=
  "  " ++ paint coloured .brightBlack (number n) ++ " " ++ paint coloured .white text ++ "\n"

def numbered (coloured : Bool) (lines : List String) : String :=
  String.join (lines.zipIdx.map fun l => line coloured (l.2 + 1) l.1) ++ "\n"

end StatusLine.Console
