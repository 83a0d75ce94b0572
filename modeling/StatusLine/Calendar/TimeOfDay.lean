import StatusLine.Bounds
import StatusLine.Calendar.Rounding
import StatusLine.Text.Digits

/-!
# Times of day

A time of day is a second of the day and nanoseconds in it; a thousand million nanoseconds or more
stand for a leap second after that second. `round?` moves a time to a multiple of an increment and
`format` writes it through a pattern.
-/
namespace StatusLine

structure TimeOfDay where
  second : Nat
  nano : Nat
  second_lt : second < 86400
  nano_lt : nano < 2000000000
  deriving DecidableEq, Repr

namespace TimeOfDay

def hour (t : TimeOfDay) : Nat := t.second / 3600
def minute (t : TimeOfDay) : Nat := t.second / 60 % 60

def faceHour (t : TimeOfDay) : Nat := if t.hour % 12 = 0 then 12 else t.hour % 12

/-- Nanoseconds since midnight; a leap second counts as the end of the second before it. -/
def nanos (t : TimeOfDay) : Nat := t.second * 1000000000 + min t.nano 999999999

def ofNanos (n : Nat) : TimeOfDay where
  second := n % 86400000000000 / 1000000000
  nano := n % 1000000000
  second_lt := by omega
  nano_lt := by omega

/-- The time with this second and these nanoseconds, a leap second only at the end of a minute. -/
def ofParts? (second nano : Nat) : Option TimeOfDay :=
  if h : second < 86400 ∧ nano < 2000000000 ∧ (1000000000 ≤ nano → second % 60 = 59) then
    some ⟨second, nano, h.1, h.2.1⟩
  else none

def narrowed? (n : Nat) : Option TimeOfDay := do
  let second ← Bounds.word32? (n % 86400000000000 / 1000000000)
  let nano ← Bounds.word32? (n % 86400000000000 % 1000000000)
  ofParts? second nano

theorem narrowed?_eq (n : Nat) : narrowed? n = some (ofNanos n) := by
  have hsecond := Bounds.word32?_eq_self (n := n % 86400000000000 / 1000000000)
    (by unfold Bounds.word32Max; omega)
  have hnano := Bounds.word32?_eq_self (n := n % 86400000000000 % 1000000000)
    (by unfold Bounds.word32Max; omega)
  have hparts : n % 86400000000000 / 1000000000 < 86400 ∧
      n % 86400000000000 % 1000000000 < 2000000000 ∧
      (1000000000 ≤ n % 86400000000000 % 1000000000 →
        n % 86400000000000 / 1000000000 % 60 = 59) := by omega
  have hmod : n % 86400000000000 % 1000000000 = n % 1000000000 := by omega
  simp only [narrowed?, hsecond, hnano, Option.bind_eq_bind, Option.bind_some, ofParts?,
    dif_pos hparts]
  simp only [ofNanos, hmod]

def round? (t : TimeOfDay) (r : Rounding) : Option TimeOfDay :=
  if r.IsValid then
    let size := r.seconds * 1000000000
    narrowed? (Rounding.steps r.direction size t.nanos * size)
  else none

theorem round?_isSome_iff (t : TimeOfDay) (r : Rounding) :
    (t.round? r).isSome = true ↔ r.IsValid := by
  unfold round?
  split <;> simp_all [narrowed?_eq]

theorem nanos_lt (t : TimeOfDay) : t.nanos < 86400000000000 := by
  have := t.second_lt
  unfold nanos
  omega

def replaceFirst (token value : List Char) : List Char → List Char
  | [] => []
  | c :: cs =>
    if token.isPrefixOf (c :: cs) then value ++ (c :: cs).drop token.length
    else c :: replaceFirst token value cs

def meridiem (t : TimeOfDay) : String := if 12 ≤ t.hour then "PM" else "AM"

def lowerMeridiem (t : TimeOfDay) : String := if 12 ≤ t.hour then "pm" else "am"

def tokens (t : TimeOfDay) : List (String × String) :=
  [("[HH]", Digits.padded 2 t.hour), ("[H]", toString t.hour),
   ("[hh]", Digits.padded 2 t.faceHour), ("[h]", toString t.faceHour),
   ("[MM]", Digits.padded 2 t.minute), ("[M]", toString t.minute),
   ("[T]", t.meridiem), ("[t]", t.lowerMeridiem)]

/-- The pattern with the first occurrence of each token replaced, one token after the other. Later
occurrences and other text in brackets stay. -/
def format (t : TimeOfDay) (pattern : List Char) : List Char :=
  t.tokens.foldl (fun text token => replaceFirst token.1.toList token.2.toList text) pattern

end TimeOfDay
end StatusLine
