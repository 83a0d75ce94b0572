import Mathlib.Data.List.Basic
import StatusLine.Text.Digits

/-!
# Numbers are read back

The decimal digits of a natural number spell that number, also after zeros on the left.
-/
namespace StatusLine.Digits

theorem isDigit_eq (c : Char) : isDigit c = c.isDigit := by
  simp only [isDigit, Char.isDigit, Char.le_def]

theorem valueFrom_eq (n : Nat) (cs : List Char) : valueFrom n cs = Nat.ofDigitChars 10 cs n := rfl

@[simp] theorem value_toDigits (n : Nat) : value (Nat.toDigits 10 n) = n := by
  rw [value, valueFrom_eq, Nat.ofDigitChars_ten_toDigits]

theorem isDigit_of_mem_toDigits {n : Nat} {c : Char} (h : c ∈ Nat.toDigits 10 n) :
    isDigit c = true := by
  rw [isDigit_eq]
  exact Nat.isDigit_of_mem_toDigits (by decide) (by decide) h

theorem read?_eq {cs : List Char} (hne : cs ≠ []) (h : ∀ c ∈ cs, isDigit c = true) :
    read? cs = some (value cs) := by
  have hall : cs.all isDigit = true := List.all_eq_true.2 h
  have hemp : cs.isEmpty = false := by simpa using hne
  simp [read?, hall, hemp]

@[simp] theorem read?_toDigits (n : Nat) : read? (Nat.toDigits 10 n) = some n := by
  rw [read?_eq Nat.toDigits_ne_nil fun c => isDigit_of_mem_toDigits, value_toDigits]

theorem ne_of_isDigit {c d : Char} (hc : isDigit c = true) (hd : isDigit d = false) : c ≠ d := by
  intro h
  rw [h, hd] at hc
  exact absurd hc Bool.false_ne_true

theorem isDigit_head {c : Char} (hc : isDigit c = false) (cs : List Char) :
    ∀ d, (c :: cs).head? = some d → isDigit d = false := by
  intro d hd
  obtain rfl := Option.some.inj hd
  exact hc

theorem takeWhile_isDigit {ds rest : List Char} (hd : ∀ c ∈ ds, isDigit c = true)
    (hr : ∀ c, rest.head? = some c → isDigit c = false) :
    (ds ++ rest).takeWhile isDigit = ds ∧ (ds ++ rest).dropWhile isDigit = rest := by
  induction ds with
  | nil =>
    cases rest with
    | nil => exact ⟨rfl, rfl⟩
    | cons c rest =>
      have hc := hr c rfl
      simp [hc]
  | cons d ds ih =>
    have hd0 := hd d (by simp)
    obtain ⟨ht, hw⟩ := ih fun c hc => hd c (by simp [hc])
    simp [hd0, ht, hw]

theorem toList_padded (width n : Nat) :
    (padded width n).toList =
      List.replicate (width - (Nat.toDigits 10 n).length) '0' ++ Nat.toDigits 10 n := by
  simp [padded, ← String.length_toList]

theorem isDigit_of_mem_padded {width n : Nat} {c : Char} (h : c ∈ (padded width n).toList) :
    isDigit c = true := by
  rw [toList_padded, List.mem_append] at h
  rcases h with h | h
  · obtain rfl := List.eq_of_mem_replicate h
    rfl
  · exact isDigit_of_mem_toDigits h

@[simp] theorem padded_ne_empty (width n : Nat) : padded width n ≠ "" := by
  intro h
  have hnil := toList_padded width n
  simp [h] at hnil

@[simp] theorem value_padded (width n : Nat) : value (padded width n).toList = n := by
  have hzeros : ∀ k, value (List.replicate k '0') = 0 := by
    intro k
    induction k with
    | zero => rfl
    | succ k ih => exact ih
  rw [toList_padded, value_append, hzeros]
  exact value_toDigits n

theorem length_padded {width n : Nat} (hw : 0 < width) (h : n < Nat.pow 10 width) :
    (padded width n).toList.length = width := by
  have hle : (Nat.toDigits 10 n).length ≤ width := (Nat.length_toDigits_le_iff (by decide) hw).2 h
  rw [toList_padded, List.length_append, List.length_replicate]
  omega

end StatusLine.Digits
