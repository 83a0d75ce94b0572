import Mathlib.Algebra.Order.Floor.Div
import Mathlib.Data.Nat.Dist
import StatusLine.Proofs.Steps
import StatusLine.Render

/-!
# Rounded times of day

`IsTarget` says which multiple of an increment a time is moved to, without a remainder: the last one
not above it, the first one not below it, or the nearest one. Each direction has exactly one target.
An increment of a valid rounding divides the day, so a target past midnight is on the grid of the
next day too, and a time on the grid is its own target in every direction.
-/
namespace StatusLine

namespace Rounding

def size (r : Rounding) : Nat := r.seconds * 1000000000

/-- No multiple is nearer, and none that is as near is later. -/
def IsNearest (size n m : Nat) : Prop :=
  size ∣ m ∧ ∀ k, size ∣ k → n.dist m < n.dist k ∨ n.dist m = n.dist k ∧ k ≤ m

def IsTarget : Direction → Nat → Nat → Nat → Prop
  | .down, size, n, m => m = size * (n / size)
  | .up, size, n, m => m = size * (n ⌈/⌉ size)
  | .nearest, size, n, m => IsNearest size n m

theorem steps_up {size : Nat} (h : 0 < size) (n : Nat) : steps .up size n = n ⌈/⌉ size := by
  refine eq_of_forall_ge_iff fun k => ?_
  rw [ceilDiv_le_iff_le_mul h, steps]
  split
  case isTrue hrest =>
    have hne : n ≠ size * k := by
      rintro rfl
      rw [Nat.mul_mod_right] at hrest
      exact absurd hrest (Nat.lt_irrefl 0)
    rw [Nat.succ_le_iff, Nat.div_lt_iff_lt_mul h, Nat.mul_comm]
    exact ⟨Nat.le_of_lt, fun hle => Nat.lt_of_le_of_ne hle hne⟩
  case isFalse hrest =>
    have hdvd : size ∣ n := Nat.dvd_of_mod_eq_zero (Nat.eq_zero_of_not_pos hrest)
    obtain ⟨q, rfl⟩ := hdvd
    rw [Nat.mul_div_cancel_left q h, Nat.mul_le_mul_left_iff h]

theorem le_or_le_of_dvd {size k : Nat} (n : Nat) (hk : size ∣ k) :
    k ≤ n / size * size ∨ (n / size + 1) * size ≤ k := by
  obtain ⟨j, rfl⟩ := hk
  rw [Nat.mul_comm size j]
  by_cases hj : j ≤ n / size
  · exact Or.inl (Nat.mul_le_mul_right size hj)
  · exact Or.inr (Nat.mul_le_mul_right size (Nat.lt_of_not_le hj))

theorem isNearest_steps {size : Nat} (h : 0 < size) (n : Nat) :
    IsNearest size n (steps .nearest size n * size) := by
  refine ⟨Nat.dvd_mul_left size _, fun k hk => ?_⟩
  have hn := Nat.div_add_mod' n size
  have hrest := Nat.mod_lt n h
  have hk := le_or_le_of_dvd n hk
  rw [Nat.succ_mul] at hk
  unfold steps Nat.dist
  dsimp only
  split
  case isTrue hhalf =>
    rw [Nat.succ_mul]
    omega
  case isFalse hhalf => omega

theorem IsNearest.unique {size n m m' : Nat} (h : IsNearest size n m) (h' : IsNearest size n m') :
    m = m' := by
  have hle := h.2 m' h'.1
  have hge := h'.2 m h.1
  omega

theorem isTarget_iff {size : Nat} (h : 0 < size) (d : Direction) (n m : Nat) :
    IsTarget d size n m ↔ m = steps d size n * size := by
  cases d with
  | down => rw [IsTarget, steps, Nat.mul_comm]
  | up => rw [IsTarget, steps_up h, Nat.mul_comm]
  | nearest =>
    constructor
    · exact fun hm => hm.unique (isNearest_steps h n)
    · rintro rfl
      exact isNearest_steps h n

theorem steps_of_dvd {size n : Nat} (h : 0 < size) (hn : size ∣ n) (d : Direction) :
    steps d size n * size = n := by
  have hrest : n % size = 0 := Nat.mod_eq_zero_of_dvd hn
  have hsteps : steps d size n = n / size := by
    cases d with
    | down => rfl
    | up => rw [steps, hrest, if_neg (Nat.lt_irrefl 0)]
    | nearest => rw [steps, hrest, if_neg (Nat.not_le.2 h)]
  rw [hsteps, Nat.div_mul_cancel hn]

theorem steps_nearest {size : Nat} (h : 0 < size) (n : Nat) :
    steps .nearest size n = steps .down size n ∨ steps .nearest size n = steps .up size n := by
  by_cases hhalf : size ≤ 2 * (n % size)
  · have hrest : 0 < n % size := by omega
    exact Or.inr (by simp [steps, hhalf, hrest])
  · exact Or.inl (by simp [steps, hhalf])

theorem steps_le (d : Direction) (size n : Nat) : steps d size n ≤ n / size + 1 := by
  cases d with
  | down => exact Nat.le_succ (n / size)
  | up | nearest =>
    rw [steps]
    split
    · exact Nat.le_refl (n / size + 1)
    · exact Nat.le_succ (n / size)

variable {r : Rounding}

theorem IsValid.size_pos (h : r.IsValid) : 0 < r.size := Nat.mul_pos h.seconds_pos (by decide)

theorem IsValid.size_dvd (h : r.IsValid) : r.size ∣ 86400000000000 :=
  Nat.mul_dvd_mul_right h.seconds_dvd 1000000000

/-- What the words hold while a time is moved: signed words of 64 bits the time, the increment,
twice the remainder, the count of increments and their product, and words of 32 bits the two parts
of the result. No division is by zero. -/
structure NeverWraps (r : Rounding) (t : TimeOfDay) : Prop where
  time : Bounds.IsSigned64 (t.second * 1000000000 : Nat) ∧ Bounds.IsSigned64 t.nanos
  increment : Bounds.IsSigned64 r.seconds ∧ Bounds.IsSigned64 r.size ∧ 0 < r.size
  remainder : Bounds.IsSigned64 (2 * (t.nanos % r.size) : Nat)
  count : Bounds.IsSigned64 (t.nanos / r.size + 1 : Nat)
  product : Bounds.IsSigned64 (steps r.direction r.size t.nanos * r.size : Nat)
  second : Bounds.IsWord32
    (steps r.direction r.size t.nanos * r.size % 86400000000000 / 1000000000 : Nat)
  nano : Bounds.IsWord32
    (steps r.direction r.size t.nanos * r.size % 86400000000000 % 1000000000 : Nat)

theorem neverWraps (h : r.IsValid) (t : TimeOfDay) : r.NeverWraps t := by
  have hday : r.size ≤ 86400000000000 := Nat.le_of_dvd (by decide) h.size_dvd
  have hincrement : r.size = r.seconds * 1000000000 := rfl
  have hsecond := t.second_lt
  have hnanos := t.nanos_lt
  have hrest := Nat.mod_lt t.nanos h.size_pos
  have hquotient := Nat.div_le_self t.nanos r.size
  have hproduct : steps r.direction r.size t.nanos * r.size ≤ t.nanos + r.size := by
    have hle := Nat.mul_le_mul_right r.size (steps_le r.direction r.size t.nanos)
    have hdiv := Nat.div_mul_le_self t.nanos r.size
    rw [Nat.succ_mul] at hle
    omega
  have hword : ∀ n : Nat, n ≤ 200000000000000 → Bounds.IsSigned64 n := fun n hn =>
    Bounds.isSigned64_natCast (Nat.le_trans hn (by decide))
  constructor
  case time => exact ⟨hword _ (by omega), hword _ (by omega)⟩
  case increment => exact ⟨hword _ (by omega), hword _ (by omega), h.size_pos⟩
  case remainder | count | product => exact hword _ (by omega)
  case second | nano =>
    unfold Bounds.IsWord32 Bounds.word32Max
    omega

end Rounding

namespace TimeOfDay

theorem round_of_isValid {r : Rounding} (h : r.IsValid) (t : TimeOfDay) :
    t.round r = .ok (.ofNanos (Rounding.steps r.direction r.size t.nanos * r.size)) := by
  simp [round, round?, h, narrowed?_eq, Rounding.size]

theorem round_eq_error {t : TimeOfDay} {r : Rounding} {f : Fault} :
    t.round r = .error f ↔ ¬ r.IsValid ∧ f = .roundingInvalid r := by
  by_cases h : r.IsValid
  · simp [round_of_isValid h, h]
  · simp [round, round?, h, eq_comm]

theorem eq_ofNanos_iff {t : TimeOfDay} {n : Nat} (h : 1000000000 ∣ n) :
    t = ofNanos n ↔ t.nanos = n % 86400000000000 ∧ t.nano = 0 := by
  obtain ⟨second, nano, hsecond, hnano⟩ := t
  simp only [ofNanos, nanos, mk.injEq]
  omega

theorem round_eq_ok {t t' : TimeOfDay} {r : Rounding} :
    t.round r = .ok t' ↔ r.IsValid ∧ ∃ m, Rounding.IsTarget r.direction r.size t.nanos m ∧
      t'.nanos = m % 86400000000000 ∧ t'.nano = 0 := by
  have hwhole : ∀ k : Nat, 1000000000 ∣ k * r.size := fun k =>
    Nat.dvd_mul_left_of_dvd (Nat.dvd_mul_left 1000000000 r.seconds) k
  constructor
  · intro h
    by_cases hr : r.IsValid
    · rw [round_of_isValid hr, Except.ok.injEq, eq_comm, eq_ofNanos_iff (hwhole _)] at h
      exact ⟨hr, _, (Rounding.isTarget_iff hr.size_pos _ _ _).2 rfl, h⟩
    · simp [round, round?, hr] at h
  · intro h
    obtain ⟨hr, m, hm, h⟩ := h
    obtain rfl := (Rounding.isTarget_iff hr.size_pos _ _ _).1 hm
    rw [round_of_isValid hr, Except.ok.injEq, eq_comm, eq_ofNanos_iff (hwhole _)]
    exact h

/-- An increment divides the day, so a target keeps to the grid when it passes midnight. -/
theorem size_dvd_of_round {t t' : TimeOfDay} {r : Rounding} (h : t.round r = .ok t') :
    r.size ∣ t'.nanos := by
  obtain ⟨hr, m, hm, hnanos, -⟩ := round_eq_ok.1 h
  obtain rfl := (Rounding.isTarget_iff hr.size_pos _ _ _).1 hm
  rw [hnanos, Nat.dvd_mod_iff hr.size_dvd]
  exact Nat.dvd_mul_left r.size _

theorem round_of_dvd {t : TimeOfDay} {r : Rounding} (h : r.IsValid) (hnanos : r.size ∣ t.nanos)
    (hnano : t.nano = 0) : t.round r = .ok t := by
  refine round_eq_ok.2 ⟨h, t.nanos, ?_, (Nat.mod_eq_of_lt t.nanos_lt).symm, hnano⟩
  rw [Rounding.isTarget_iff h.size_pos, Rounding.steps_of_dvd h.size_pos hnanos]

/-- Rounding is exact, on the day. It fails for an increment that is not valid and for nothing else.
Otherwise the time is moved to the target, past midnight into the next day if need be, and there it
stays, whichever way it is rounded again. The nearest target is the last before or the first after,
and no word wraps. -/
theorem round_is_exact (t : TimeOfDay) (r : Rounding) :
    (∀ f, t.round r = .error f ↔ ¬ r.IsValid ∧ f = .roundingInvalid r) ∧
    (∀ t', t.round r = .ok t' ↔ r.IsValid ∧
      ∃ m, Rounding.IsTarget r.direction r.size t.nanos m ∧
        t'.nanos = m % 86400000000000 ∧ t'.nano = 0) ∧
    (∀ t', t.round r = .ok t' → r.size ∣ t'.nanos ∧
      ∀ d, t'.round { r with direction := d } = .ok t') ∧
    (∀ t', t.round { r with direction := .nearest } = .ok t' →
      t.round { r with direction := .down } = .ok t' ∨
        t.round { r with direction := .up } = .ok t') ∧
    (r.IsValid → r.NeverWraps t) := by
  refine ⟨fun f => round_eq_error, fun t' => round_eq_ok, ?_, ?_, fun h => Rounding.neverWraps h t⟩
  · intro t' h
    obtain ⟨hr, -, -, -, hnano⟩ := round_eq_ok.1 h
    have hdvd := size_dvd_of_round h
    have hvalid : ∀ d, Rounding.IsValid { r with direction := d } := fun d => hr
    exact ⟨hdvd, fun d => round_of_dvd (hvalid d) hdvd hnano⟩
  · intro t' h
    obtain ⟨hr, -⟩ := round_eq_ok.1 h
    have hvalid : ∀ d, Rounding.IsValid { r with direction := d } := fun d => hr
    rw [round_of_isValid (hvalid _)] at h ⊢
    rw [round_of_isValid (hvalid _)]
    have hsize : 0 < r.size := (show r.IsValid from hr).size_pos
    rcases Rounding.steps_nearest hsize t.nanos with hsteps | hsteps
    · exact Or.inl (hsteps ▸ h)
    · exact Or.inr (hsteps ▸ h)

end TimeOfDay
end StatusLine
