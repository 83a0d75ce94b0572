import StatusLine.Json.Basic
import StatusLine.Json.Magnitude

/-!
# Reading JSON

The grammar of the standard and nothing beyond it: no comments, no trailing commas, no leading
zeros, no bare control characters in strings. A text is one value with blanks around it.
-/
namespace StatusLine.Json

def isBlank (c : Char) : Bool := c == ' ' || c == '\n' || c == '\t' || c == '\r'

def skipBlank (cs : List Char) : List Char := cs.dropWhile isBlank

def hexValue? (c : Char) : Option Nat :=
  if '0' ≤ c ∧ c ≤ '9' then some (c.toNat - 48)
  else if 'a' ≤ c ∧ c ≤ 'f' then some (c.toNat - 87)
  else if 'A' ≤ c ∧ c ≤ 'F' then some (c.toNat - 55)
  else none

def hex4? (a b c d : Char) : Option Nat := do
  return 4096 * (← hexValue? a) + 256 * (← hexValue? b) + 16 * (← hexValue? c) + (← hexValue? d)

def escaped? : Char → Option Char
  | '"' => some '"'
  | '\\' => some '\\'
  | '/' => some '/'
  | 'b' => some '\x08'
  | 'f' => some '\x0c'
  | 'n' => some '\n'
  | 'r' => some '\r'
  | 't' => some '\t'
  | _ => none

/-- A character of a string as written: itself, or a unit of 16 bits given by its number. -/
inductive Piece
  | char (c : Char)
  | unit (n : Nat)

def pieces : List Char → Option (List Piece × List Char)
  | [] => none
  | '"' :: cs => some ([], cs)
  | '\\' :: 'u' :: a :: b :: c :: d :: cs => do
    let n ← hex4? a b c d
    let (ps, rest) ← pieces cs
    return (.unit n :: ps, rest)
  | '\\' :: e :: cs => do
    let c ← escaped? e
    let (ps, rest) ← pieces cs
    return (.char c :: ps, rest)
  | c :: cs =>
    if c = '\\' ∨ c.toNat < 32 then none
    else do
      let (ps, rest) ← pieces cs
      return (.char c :: ps, rest)

def isHighSurrogate (n : Nat) : Bool := 0xD800 ≤ n && n < 0xDC00
def isLowSurrogate (n : Nat) : Bool := 0xDC00 ≤ n && n < 0xE000

/-- The characters that pieces spell, if every surrogate is one of a pair. -/
def spell : List Piece → Option (List Char)
  | [] => some []
  | .char c :: ps => (c :: ·) <$> spell ps
  | .unit n :: .unit m :: ps =>
    if isHighSurrogate n then
      if isLowSurrogate m then
        (Char.ofNat (0x10000 + 1024 * (n - 0xD800) + (m - 0xDC00)) :: ·) <$> spell ps
      else none
    else if isLowSurrogate n then none
    else (Char.ofNat n :: ·) <$> spell (.unit m :: ps)
  | .unit n :: ps =>
    if isHighSurrogate n || isLowSurrogate n then none else (Char.ofNat n :: ·) <$> spell ps

def text? (ps : List Piece) : Option String := String.ofList <$> spell ps

def digits? (cs : List Char) : Option (List Char × List Char) :=
  let ds := cs.takeWhile Digits.isDigit
  if ds.isEmpty then none else some (ds, cs.dropWhile Digits.isDigit)

def fraction? : List Char → Option (Option (List Char) × List Char)
  | '.' :: cs => (digits? cs).map fun (ds, rest) => (some ds, rest)
  | cs => some (none, cs)

def exponent? : List Char → Option (Option Int × List Char)
  | 'e' :: cs | 'E' :: cs => match cs with
    | '-' :: cs => power (-1) cs
    | '+' :: cs => power 1 cs
    | cs => power 1 cs
  | cs => some (none, cs)
where
  power (sign : Int) (cs : List Char) : Option (Option Int × List Char) :=
    (digits? cs).map fun (ds, rest) => (some (sign * Digits.value ds), rest)

def unsigned? (negative : Bool) (cs : List Char) : Option (Json × List Char) := do
  let (whole, cs) ← digits? cs
  if whole.length > 1 ∧ whole.head? = some '0' then none
  let (fraction, cs) ← fraction? cs
  let (exponent, cs) ← exponent? cs
  let v :=
    if (Magnitude.ofDigits whole (fraction.getD []) (exponent.getD 0)).isTooLarge then unreadable
    else if fraction.isSome || exponent.isSome then decimal
    else if !negative then integer (Digits.value whole)
    else if Digits.value whole = 0 then decimal
    else integer (-(Digits.value whole : Int))
  return (v, cs)

def number? : List Char → Option (Json × List Char)
  | '-' :: cs => unsigned? true cs
  | cs => unsigned? false cs

mutual
/-- A value, after blanks, and the text that follows; `fuel` bounds the nesting and the length. -/
def value? : Nat → List Char → Option (Json × List Char)
  | 0, _ => none
  | fuel + 1, cs => match skipBlank cs with
    | 'n' :: 'u' :: 'l' :: 'l' :: cs => some (null, cs)
    | 't' :: 'r' :: 'u' :: 'e' :: cs => some (bool true, cs)
    | 'f' :: 'a' :: 'l' :: 's' :: 'e' :: cs => some (bool false, cs)
    | '"' :: cs => (pieces cs).map fun (ps, rest) => ((text? ps).elim unreadable string, rest)
    | '[' :: cs => match skipBlank cs with
      | ']' :: cs => some (array [], cs)
      | cs => (items? fuel cs).map fun (vs, rest) => (array vs, rest)
    | '{' :: cs => match skipBlank cs with
      | '}' :: cs => some (object [], cs)
      | cs => (members? fuel cs).map fun (ms, rest) => (ms.elim unreadable object, rest)
    | cs => number? cs

def items? : Nat → List Char → Option (List Json × List Char)
  | 0, _ => none
  | fuel + 1, cs => do
    let (v, cs) ← value? fuel cs
    match skipBlank cs with
    | ',' :: cs => (items? fuel cs).map fun (vs, rest) => (v :: vs, rest)
    | ']' :: cs => some ([v], cs)
    | _ => none

def members? : Nat → List Char → Option (Option (List (String × Json)) × List Char)
  | 0, _ => none
  | fuel + 1, cs => match skipBlank cs with
    | '"' :: cs => do
      let (ps, cs) ← pieces cs
      match skipBlank cs with
      | ':' :: cs => do
        let (v, cs) ← value? fuel cs
        let member := (text? ps).map fun key => (key, v)
        match skipBlank cs with
        | ',' :: cs =>
          (members? fuel cs).map fun (ms, rest) =>
            (member.bind fun m => ms.map fun ms => m :: ms, rest)
        | '}' :: cs => some (member.map fun m => [m], cs)
        | _ => none
      | _ => none
    | _ => none
end

def read? (text : String) : Option Json := do
  let cs := text.toList
  let (v, rest) ← value? (2 * cs.length + 2) cs
  if (skipBlank rest).isEmpty then some v else none

end StatusLine.Json
