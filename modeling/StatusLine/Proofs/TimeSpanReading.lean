import StatusLine.Proofs.Numerals
import StatusLine.Proofs.Steps
import StatusLine.TimeSpan

/-!
# Time spans of one group

The digits of a number and a unit are read as that number of units, with the sign in front. What is
read of any span is a whole number of minutes.
-/
namespace StatusLine.TimeSpan

theorem groups_digit {sign : Int} {span : TimeSpan} {count : Option Nat} {d : Char} {cs : List Char}
    (hd : Digits.isDigit d = true) :
    groups sign span count (d :: cs) =
      groups sign span (some (10 * count.getD 0 + Digits.digit d)) cs := by
  conv => lhs; unfold groups
  rw [if_pos hd]

theorem groups_digits {sign : Int} {span : TimeSpan} {ds rest : List Char} (n : Nat)
    (hd : ∀ c ∈ ds, Digits.isDigit c = true) :
    groups sign span (some n) (ds ++ rest) =
      groups sign span (some (Digits.valueFrom n ds)) rest := by
  induction ds generalizing n with
  | nil => rfl
  | cons d ds ih =>
    have hd0 : Digits.isDigit d = true := hd d (by simp)
    rw [List.cons_append, groups_digit hd0]
    exact ih (10 * n + Digits.digit d) fun c hc => hd c (by simp [hc])

theorem groups_number {sign : Int} {span : TimeSpan} {ds rest : List Char} (hne : ds ≠ [])
    (hd : ∀ c ∈ ds, Digits.isDigit c = true) :
    groups sign span none (ds ++ rest) = groups sign span (some (Digits.value ds)) rest := by
  cases ds with
  | nil => exact absurd rfl hne
  | cons d ds =>
    rw [List.cons_append, groups_digit (hd d (by simp)),
      groups_digits _ fun c hc => hd c (by simp [hc])]
    rfl

def letter : TimeUnit → Char
  | .hours => 'h'
  | .minutes => 'm'

@[simp] theorem unitOf?_letter (u : TimeUnit) : unitOf? (letter u) = some u := by cases u <;> rfl

@[simp] theorem isDigit_letter (u : TimeUnit) : Digits.isDigit (letter u) = false := by
  cases u <;> rfl

/-- A unit that has an amount already takes no other one, and no amount is past 64 bits. -/
theorem groups_letter (sign : Int) (span : TimeSpan) (n : Nat) (u : TimeUnit) (rest : List Char) :
    groups sign span (some n) (letter u :: rest) =
      if (span.amount u).isSome ∨ Bounds.signed64Max < n then none
      else groups sign (span.withAmount (sign * n) u) none rest := by
  conv => lhs; unfold groups
  simp only [isDigit_letter, unitOf?_letter, Bool.false_eq_true, if_false]

def group (n : Nat) (u : TimeUnit) : List Char := Nat.toDigits 10 n ++ [letter u]

theorem group_ne_nil (n : Nat) (u : TimeUnit) : group n u ≠ [] := by simp [group]

theorem isDigit_head_group {n : Nat} {u : TimeUnit} {c : Char} (h : (group n u).head? = some c) :
    Digits.isDigit c = true := by
  obtain ⟨d, ds, hds⟩ := List.exists_cons_of_ne_nil (Nat.toDigits_ne_nil (n := n) (b := 10))
  rw [group, hds] at h
  obtain rfl := Option.some.inj h
  exact Digits.isDigit_of_mem_toDigits (n := n) (hds ▸ List.mem_cons_self)

theorem groups_group (sign : Int) {n : Nat} (hn : n ≤ Bounds.signed64Max) (u : TimeUnit) :
    groups sign empty none (group n u) = some (empty.withAmount (sign * n) u) := by
  have hd : ∀ c ∈ Nat.toDigits 10 n, Digits.isDigit c = true :=
    fun c => Digits.isDigit_of_mem_toDigits
  have hfree : ¬ ((empty.amount u).isSome = true ∨ Bounds.signed64Max < n) := by
    rw [not_or]
    exact ⟨by cases u <;> exact Bool.false_ne_true, Nat.not_lt.2 hn⟩
  rw [group, groups_number Nat.toDigits_ne_nil hd, Digits.value_toDigits, groups_letter,
    if_neg hfree]
  rfl

theorem readSigned_group (sign : Int) {n : Nat} (hn : n ≤ Bounds.signed64Max) (u : TimeUnit) :
    readSigned sign (group n u) = some (empty.withAmount (sign * n) u) := by
  have hne : (group n u).isEmpty = false := by simp [group_ne_nil]
  simp [readSigned, hne, groups_group sign hn u]

theorem read?_plus_group {n : Nat} (hn : n ≤ Bounds.signed64Max) (u : TimeUnit) :
    read? ('+' :: group n u) = some (empty.withAmount n u) := by
  simpa [read?] using readSigned_group 1 hn u

theorem read?_minus_group {n : Nat} (hn : n ≤ Bounds.signed64Max) (u : TimeUnit) :
    read? ('-' :: group n u) = some (empty.withAmount (-n) u) := by
  simpa [read?] using readSigned_group (-1) hn u

theorem read?_of_isDigit_head {cs : List Char}
    (h : ∀ c, cs.head? = some c → Digits.isDigit c = true) : read? cs = readSigned 1 cs := by
  unfold read?
  split
  case h_1 => exact absurd (h '-' rfl) Bool.false_ne_true
  case h_2 => exact absurd (h '+' rfl) Bool.false_ne_true
  case h_3 => rfl

theorem read?_group {n : Nat} (hn : n ≤ Bounds.signed64Max) (u : TimeUnit) :
    read? (group n u) = some (empty.withAmount n u) := by
  rw [read?_of_isDigit_head fun c => isDigit_head_group, readSigned_group 1 hn u, Int.one_mul]

theorem totalSeconds_withAmount {n : Int} {u : TimeUnit}
    (h : Bounds.IsSigned64 (u.seconds * n)) :
    (empty.withAmount n u).totalSeconds = some (u.seconds * n) := by
  have h0 : Bounds.signed64? 0 = some 0 := by decide
  cases u <;> simp_all [totalSeconds, empty, withAmount, Bounds.signed64?, TimeUnit.seconds]

theorem dvd_of_totalSeconds {s : TimeSpan} {n : Int} (h : s.totalSeconds = some n) : 60 ∣ n := by
  unfold totalSeconds at h
  simp only [Option.bind_eq_bind, Option.bind_eq_some_iff, Bounds.signed64?_eq_some] at h
  obtain ⟨hours, ⟨-, rfl⟩, minutes, ⟨-, rfl⟩, -, rfl⟩ := h
  omega

end StatusLine.TimeSpan
