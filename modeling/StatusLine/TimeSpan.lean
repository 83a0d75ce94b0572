import StatusLine.Bounds
import StatusLine.Fault
import StatusLine.Text.Digits

/-!
# Time spans

A span such as `1h30m` is an optional sign and then groups of digits and a unit, each unit at most
once and in either order. The sign counts for every group. A unit that is not named is absent,
which is not the same as zero.
-/
namespace StatusLine

structure TimeSpan where
  hours : Option Int
  minutes : Option Int
  deriving DecidableEq, Repr

namespace TimeSpan

def empty : TimeSpan := ⟨none, none⟩

def amount (s : TimeSpan) : TimeUnit → Option Int
  | .hours => s.hours
  | .minutes => s.minutes

def withAmount (s : TimeSpan) (n : Int) : TimeUnit → TimeSpan
  | .hours => { s with hours := some n }
  | .minutes => { s with minutes := some n }

@[simp] theorem amount_withAmount (s : TimeSpan) (n : Int) (u v : TimeUnit) :
    (s.withAmount n u).amount v = if u = v then some n else s.amount v := by
  cases u <;> cases v <;> rfl

def totalSeconds (s : TimeSpan) : Option Int := do
  let hours ← Bounds.signed64? (3600 * s.hours.getD 0)
  let minutes ← Bounds.signed64? (60 * s.minutes.getD 0)
  Bounds.signed64? (hours + minutes)

def unitOf? : Char → Option TimeUnit
  | 'h' => some .hours
  | 'm' => some .minutes
  | _ => none

/-- Reads the groups that follow a span read so far. The digits of the current group, if there are
any yet, spell `count`. -/
def groups (sign : Int) (span : TimeSpan) (count : Option Nat) : List Char → Option TimeSpan
  | [] => if count.isSome then none else some span
  | c :: cs =>
    if Digits.isDigit c then
      groups sign span (some (10 * count.getD 0 + Digits.digit c)) cs
    else
      match count, unitOf? c with
      | some n, some u =>
        if (span.amount u).isSome ∨ Bounds.signed64Max < n then none
        else groups sign (span.withAmount (sign * n) u) none cs
      | _, _ => none

def readSigned (sign : Int) (body : List Char) : Option TimeSpan :=
  if body.isEmpty then none else groups sign empty none body

def read? : List Char → Option TimeSpan
  | '-' :: body => readSigned (-1) body
  | '+' :: body => readSigned 1 body
  | body => readSigned 1 body

def parse (text : String) : Except Fault TimeSpan :=
  match read? text.toList with
  | some span => .ok span
  | none => .error (.timeSpanMalformed text)

example : read? "-1h30m".toList = some ⟨some (-1), some (-30)⟩ := by decide
example : read? "0m".toList = some ⟨none, some 0⟩ := by decide
example : read? "1h2h".toList = none ∧ read? "+-1h".toList = none ∧ read? "15".toList = none := by
  decide

theorem parse_eq_ok {text : String} {span : TimeSpan} :
    parse text = .ok span ↔ read? text.toList = some span := by
  unfold parse
  split <;> simp_all

end TimeSpan
end StatusLine
