import StatusLine.Bounds
import StatusLine.Text.Digits

/-!
# The size of numbers

Of the digits of a number as many are kept as make a number of 64 bits. Whole digits after those are
counted as powers of ten, digits of a fraction are left out. A number is too large if the digits and
the power of ten, each rounded to 53 binary digits, have a product that rounds to infinity.
-/
namespace StatusLine.Json

/-- The digits of a number as far as they are kept, and the power of ten that goes with them. -/
structure Magnitude where
  digits : Nat
  power : Int
  deriving DecidableEq, Repr

namespace Magnitude

def append : Nat → List Char → Nat × List Char
  | n, [] => (n, [])
  | n, c :: cs =>
    let next := 10 * n + Digits.digit c
    if next ≤ Bounds.word64Max then append next cs else (n, c :: cs)

def ofDigits (whole fraction : List Char) (exponent : Int) : Magnitude :=
  let (n, counted) := append 0 whole
  let (m, leftOut) := append n fraction
  ⟨m, exponent + counted.length - (fraction.length - leftOut.length : Nat)⟩

/-- The nearest number with 53 binary digits; a half goes to the even neighbour. -/
def nearest (n : Nat) : Nat :=
  let unit := Nat.pow 2 (n.log2 - 52)
  let q := n / unit
  let r := n % unit
  if 2 * r < unit ∨ (2 * r = unit ∧ q % 2 = 0) then q * unit else (q + 1) * unit

def halfGap : Nat := 970

/-- The middle between the largest double and `2 ^ 1024`: from here on, products round to
infinity. -/
def infinite : Nat := 18014398509481983 * Nat.pow 2 halfGap

def isTooLarge (x : Magnitude) : Bool :=
  x.digits != 0 && 0 ≤ x.power &&
    (308 < x.power || infinite ≤ nearest x.digits * nearest (Nat.pow 10 x.power.toNat))

theorem append_eq {n : Nat} {cs : List Char} (h : Digits.valueFrom n cs ≤ Bounds.word64Max) :
    append n cs = (Digits.valueFrom n cs, []) := by
  have le : ∀ (cs : List Char) (n : Nat), n ≤ Digits.valueFrom n cs := by
    intro cs
    induction cs with
    | nil => exact fun n => Nat.le_refl n
    | cons c cs ih => exact fun n => Nat.le_trans (by omega) (ih (10 * n + Digits.digit c))
  induction cs generalizing n with
  | nil => rfl
  | cons c cs ih =>
    rw [append, if_pos (Nat.le_trans (le cs _) h)]
    exact ih h

theorem nearest_le (n : Nat) : nearest n ≤ 2 * n := by
  by_cases hn : n = 0
  · subst hn; decide
  have hu : Nat.pow 2 (n.log2 - 52) ≤ n :=
    Nat.le_trans (Nat.pow_le_pow_right (by omega) (Nat.sub_le _ _)) (Nat.log2_self_le hn)
  have hq : n / Nat.pow 2 (n.log2 - 52) * Nat.pow 2 (n.log2 - 52) ≤ n := Nat.div_mul_le_self _ _
  simp only [nearest, Nat.add_mul]
  split <;> omega

theorem pow_le_pow {k m : Nat} (h : k ≤ m) : Nat.pow 2 k ≤ Nat.pow 2 m :=
  Nat.pow_le_pow_right (by decide) h

theorem isTooLarge_eq_false {m : Nat} (h : m ≤ Bounds.word64Max) :
    isTooLarge ⟨m, 0⟩ = false := by
  have h1 : Nat.pow 2 65 ≤ infinite :=
    Nat.le_trans (pow_le_pow (by decide : 65 ≤ halfGap)) (Nat.le_mul_of_pos_left _ (by decide))
  have h2 : nearest m < infinite := by
    have hpow : 2 * Bounds.word64Max < Nat.pow 2 65 := by decide
    have hle := nearest_le m
    omega
  have h3 : nearest (Nat.pow 10 0) = 1 := by decide
  have h4 : ¬infinite ≤ nearest m * nearest (Nat.pow 10 0) := by
    rw [h3]
    omega
  change (m != 0 && decide ((0 : Int) ≤ 0) && (decide ((308 : Int) < 0) ||
    decide (infinite ≤ nearest m * nearest (Nat.pow 10 0)))) = false
  rw [decide_eq_false h4]
  simp

example : nearest 9007199254740993 = 9007199254740992 ∧
    nearest 9007199254740995 = 9007199254740996 := by decide

example : ofDigits "18446744073709551616".toList ['1', '2'] 0 = ⟨18446744073709551611, -1 + 1⟩ ∧
    ofDigits ['1'] ['5', '0'] 3 = ⟨150, 1⟩ := by decide

end Magnitude
end StatusLine.Json
