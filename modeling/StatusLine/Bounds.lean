/-!
# Bounds on whole numbers

Numbers are exact. Where a result must fit in a signed 64-bit word, or in the integers that a
double holds exactly, that is a test on the number and never a wrap.
-/
namespace StatusLine.Bounds

/-- The largest integer up to which a double holds every integer. -/
def safeMax : Nat := 9007199254740991

def word32Max : Nat := 4294967295
def word64Max : Nat := 18446744073709551615
def signed64Max : Nat := 9223372036854775807

def IsSafe (n : Int) : Prop := -(safeMax : Int) ≤ n ∧ n ≤ safeMax

instance (n : Int) : Decidable (IsSafe n) := by unfold IsSafe; infer_instance

def IsSafeIndex (n : Int) : Prop := 0 ≤ n ∧ n ≤ safeMax

instance (n : Int) : Decidable (IsSafeIndex n) := by unfold IsSafeIndex; infer_instance

def IsSigned64 (n : Int) : Prop := -(signed64Max : Int) - 1 ≤ n ∧ n ≤ signed64Max

instance (n : Int) : Decidable (IsSigned64 n) := by unfold IsSigned64; infer_instance

def IsWord64 (n : Int) : Prop := 0 ≤ n ∧ n ≤ word64Max

instance (n : Int) : Decidable (IsWord64 n) := by unfold IsWord64; infer_instance

def IsWord32 (n : Int) : Prop := 0 ≤ n ∧ n ≤ word32Max

instance (n : Int) : Decidable (IsWord32 n) := by unfold IsWord32; infer_instance

def word32? (n : Nat) : Option Nat := if IsWord32 n then some n else none

theorem word32?_eq_self {n : Nat} (h : n ≤ word32Max) : word32? n = some n :=
  if_pos ⟨by omega, by omega⟩

def signed64? (n : Int) : Option Int := if IsSigned64 n then some n else none

theorem signed64?_eq_some {n m : Int} : signed64? n = some m ↔ IsSigned64 n ∧ n = m := by
  simp [signed64?]

theorem isSigned64_natCast {n : Nat} (h : n ≤ signed64Max) : IsSigned64 n := by
  unfold IsSigned64
  omega

theorem IsSafe.isSigned64 {n : Int} (h : IsSafe n) : IsSigned64 n := by
  unfold IsSafe safeMax at h
  unfold IsSigned64 signed64Max
  omega

end StatusLine.Bounds
