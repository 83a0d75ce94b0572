import StatusLine.Calendar.Instant
import StatusLine.Unicode.Blank

/-!
# Timestamps

The text of an instant: date, `T`, time, fraction and offset. Writing always uses universal time
and `Z`, fractions of three, six or nine digits, second 60 for a leap second, and a sign before a
year that is not between 0 and 9999. Reading takes any offset below a day, any number of digits in
a fraction, short numbers, and blanks between the parts.
-/
namespace StatusLine.Timestamp
open Unicode

def yearText (year : Int) : String :=
  if 0 ≤ year ∧ year ≤ 9999 then Digits.padded 4 year.toNat
  else (if year < 0 then "-" else "+") ++ Digits.padded 4 year.natAbs

def fractionText (nano : Nat) : String :=
  if nano = 0 then ""
  else if nano % 1000000 = 0 then "." ++ Digits.padded 3 (nano / 1000000)
  else if nano % 1000 = 0 then "." ++ Digits.padded 6 (nano / 1000)
  else "." ++ Digits.padded 9 nano

def dateText (d : Date) : String :=
  yearText d.year ++ "-" ++ Digits.padded 2 d.month ++ "-" ++ Digits.padded 2 d.day

def write (t : Instant) : String :=
  let time := t.timeOfDay 0
  let leap := if t.isLeap then 1 else 0
  dateText t.date ++ "T" ++ Digits.padded 2 time.hour ++ ":" ++ Digits.padded 2 time.minute ++
    ":" ++ Digits.padded 2 (time.second % 60 + leap) ++ fractionText (t.nano % 1000000000) ++ "Z"

def short (t : Instant) : String :=
  let time := t.timeOfDay 0
  dateText t.date ++ " " ++ Digits.padded 2 time.hour ++ ":" ++ Digits.padded 2 time.minute

def number? (width : Nat) (cs : List Char) : Option (Nat × List Char) :=
  let cs := trimBlank cs
  let ds := (cs.take width).takeWhile Digits.isDigit
  if ds.isEmpty then none else some (Digits.value ds, cs.drop ds.length)

/-- A year: up to four digits, or any number of them after a sign. -/
def year? (cs : List Char) : Option (Int × List Char) :=
  match trimBlank cs with
  | '-' :: cs => signed (-1) cs
  | '+' :: cs => signed 1 cs
  | cs => (number? 4 cs).map fun (n, cs) => ((n : Int), cs)
where
  signed (sign : Int) (cs : List Char) : Option (Int × List Char) :=
    let ds := cs.takeWhile Digits.isDigit
    if ds.isEmpty then none else some (sign * Digits.value ds, cs.dropWhile Digits.isDigit)

def mark? (c : Char) (cs : List Char) : Option (List Char) :=
  match trimBlank cs with
  | d :: cs => if d = c then some cs else none
  | [] => none

/-- Nanoseconds after a point: one digit or more, cut after the ninth. Without a point, none. -/
def fraction? : List Char → Option (Nat × List Char)
  | '.' :: cs =>
    let ds := cs.takeWhile Digits.isDigit
    if ds.isEmpty then none
    else
      let kept := ds.take 9
      some (Digits.value kept * Nat.pow 10 (9 - kept.length), cs.dropWhile Digits.isDigit)
  | cs => some (0, cs)

def hourMinute? : List Char → Option (Int × List Char)
  | a :: b :: cs =>
    if Digits.isDigit a && Digits.isDigit b then
      match cs.dropWhile fun c => c == ':' || isBlank c with
      | c :: d :: cs =>
        if Digits.isDigit c && Digits.isDigit d && Digits.digit c < 6 then
          some (3600 * Digits.value [a, b] + 60 * Digits.value [c, d], cs)
        else none
      | _ => none
    else none
  | _ => none

def offset? : List Char → Option (Int × List Char)
  | 'Z' :: cs | 'z' :: cs => some (0, cs)
  | '+' :: cs => hourMinute? cs
  | '-' :: cs | '−' :: cs => (hourMinute? cs).map fun (n, cs) => (-n, cs)
  | u :: t :: c :: cs =>
    if u.toLower = 'u' ∧ t.toLower = 't' ∧ c.toLower = 'c' then some (0, cs) else none
  | _ => none

def date? (cs : List Char) : Option (Date × List Char) := do
  let (year, cs) ← year? cs
  let cs ← mark? '-' cs
  let (month, cs) ← number? 2 cs
  let cs ← mark? '-' cs
  let (day, cs) ← number? 2 cs
  let d : Date := ⟨year, month, day⟩
  if d.IsValid ∧ Instant.minYear ≤ year ∧ year ≤ Instant.maxYear then some (d, cs) else none

/-- Second of the day and nanoseconds; second 60 counts as nanoseconds of the second before it. -/
def time? (cs : List Char) : Option ((Nat × Nat) × List Char) := do
  let (hour, cs) ← number? 2 cs
  let cs ← mark? ':' cs
  let (minute, cs) ← number? 2 cs
  let cs ← mark? ':' cs
  let (second, cs) ← number? 2 cs
  let (nano, cs) ← fraction? cs
  if hour ≤ 23 ∧ minute ≤ 59 ∧ second ≤ 60 then
    let leap := second / 60
    some ((3600 * hour + 60 * minute + (second - leap), nano + leap * 1000000000), cs)
  else none

def readZoned? (text : String) : Option (Instant × Int) := do
  let (date, cs) ← date? text.toList
  let cs ← match cs with
    | 'T' :: cs | 't' :: cs | ' ' :: cs => some cs
    | _ => none
  let ((second, nano), cs) ← time? cs
  let (offset, cs) ← offset? (trimBlank cs)
  if (trimBlank cs).isEmpty ∧ -86400 < offset ∧ offset < 86400 then
    let t ← Instant.ofParts? (86400 * date.dayNumber + second - offset) nano
    return (t, offset)
  else none

def read? (text : String) : Option Instant := (readZoned? text).map (·.1)

example : (read? "2024-03-01T09:41:30+02:00").map write = some "2024-03-01T07:41:30Z" := by decide
example : (read? "2016-12-31T23:59:60.5Z").map write = some "2016-12-31T23:59:60.500Z" := by decide
example : (read? "0000-01-01T00:00:00+01:00").map write = some "-0001-12-31T23:00:00Z" := by decide
example : read? "2023-02-29T00:00:00Z" = none ∧ read? "2024-03-01T09:41Z" = none := by decide

end StatusLine.Timestamp
