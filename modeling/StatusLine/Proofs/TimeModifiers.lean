import StatusLine.Proofs.PlaceholderWriting
import StatusLine.Proofs.TimeSpanGrammar

/-!
# Time modifiers compute exactly

Shifts and roundings are compared with numbers of any size. A range that is a shift is accepted
while its seconds are safe, whatever numbers it is written with, and the shift is the signed sum. A
range that is a rounding is accepted when it counts one unit only, by a number below the next
larger unit that divides it. The numbers on the way stay words of 64 bits: both amounts of a span
have the same sign, so the sum of the seconds is out of bounds as soon as a part of it is, and a sum
that is in bounds is a multiple of sixty, which the least word is not.
-/
namespace StatusLine

namespace TimeSpan

def seconds (s : TimeSpan) : Int := 3600 * s.hours.getD 0 + 60 * s.minutes.getD 0

def IsAligned (s : TimeSpan) : Prop :=
  (0 ≤ s.hours.getD 0 ∧ 0 ≤ s.minutes.getD 0) ∨ (s.hours.getD 0 ≤ 0 ∧ s.minutes.getD 0 ≤ 0)

theorem isSigned64_parts {s : TimeSpan} (h : s.IsAligned) (hs : Bounds.IsSigned64 s.seconds) :
    Bounds.IsSigned64 (3600 * s.hours.getD 0) ∧ Bounds.IsSigned64 (60 * s.minutes.getD 0) := by
  unfold Bounds.IsSigned64 Bounds.signed64Max seconds at *
  rcases h with h | h <;> omega

/-- The checks of the parts find nothing that the check of the sum does not find. -/
theorem totalSeconds_eq {s : TimeSpan} (h : s.IsAligned) :
    s.totalSeconds = Bounds.signed64? s.seconds := by
  by_cases hs : Bounds.IsSigned64 s.seconds
  · obtain ⟨hhours, hminutes⟩ := isSigned64_parts h hs
    unfold seconds at hs ⊢
    simp [totalSeconds, Bounds.signed64?, hhours, hminutes]
  · unfold seconds at hs ⊢
    simp [totalSeconds, Bounds.signed64?, Option.bind_eq_none_iff, hs]

namespace Sign

theorem factor_eq (s : Sign) : s.factor = 1 ∨ s.factor = -1 := by
  cases s with
  | plus => exact Or.inl rfl
  | minus => exact Or.inr rfl

theorem factorOf_eq (sign : Option Sign) : factorOf sign = 1 ∨ factorOf sign = -1 := by
  cases sign with
  | none => exact Or.inl rfl
  | some s => exact s.factor_eq

end Sign

namespace Range

def count (r : Range) (u : TimeUnit) : Nat :=
  ((r.groups.find? fun g => g.unit = u).map Group.count).getD 0

def seconds (r : Range) : Nat := 3600 * r.count .hours + 60 * r.count .minutes

theorem getD_amount_span (r : Range) (factor : Int) (u : TimeUnit) :
    ((r.span factor).amount u).getD 0 = factor * r.count u := by
  cases hfind : r.groups.find? fun g => g.unit = u with
  | none =>
    have hnone : (r.span factor).amount u = none := by
      refine Option.eq_none_iff_forall_ne_some.2 fun n hn => ?_
      obtain ⟨g, hg, hu, -⟩ := (r.amount_span factor u n).1 hn
      simpa [hu] using List.find?_eq_none.1 hfind g hg
    simp [hnone, count, hfind]
  | some g =>
    have hg : g ∈ r.groups := List.mem_of_find?_eq_some hfind
    have hu : g.unit = u := by simpa using List.find?_some hfind
    have hsome := (r.amount_span factor u _).2 ⟨g, hg, hu, rfl⟩
    simp [hsome, count, hfind]

theorem seconds_span (r : Range) (factor : Int) : (r.span factor).seconds = factor * r.seconds := by
  have hhours := r.getD_amount_span factor .hours
  have hminutes := r.getD_amount_span factor .minutes
  simp only [amount] at hhours hminutes
  rw [TimeSpan.seconds, hhours, hminutes, seconds]
  rw [Int.natCast_add, Int.natCast_mul, Int.natCast_mul, Int.mul_add,
    Int.mul_left_comm factor (3600 : Nat), Int.mul_left_comm factor (60 : Nat)]
  rfl

theorem isAligned_span (r : Range) {factor : Int} (h : factor = 1 ∨ factor = -1) :
    (r.span factor).IsAligned := by
  have hhours := r.getD_amount_span factor .hours
  have hminutes := r.getD_amount_span factor .minutes
  simp only [amount] at hhours hminutes
  rw [IsAligned, hhours, hminutes]
  rcases h with rfl | rfl
  · exact Or.inl (by omega)
  · exact Or.inr (by omega)

theorem count_unit {r : Range} {g : Group} (hg : g ∈ r.groups) : r.count g.unit = g.count := by
  obtain ⟨first, second, hne⟩ := r
  cases second with
  | none =>
    obtain rfl : g = first := by simpa [groups] using hg
    simp [count, groups]
  | some k =>
    have hunits : first.unit ≠ k.unit := hne k rfl
    have hcases : g = first ∨ g = k := by simpa [groups] using hg
    rcases hcases with rfl | rfl
    · simp [count, groups]
    · simp [count, groups, hunits]

theorem fits_of_seconds_le {r : Range} (h : r.seconds ≤ Bounds.safeMax) : r.Fits := by
  intro g hg
  have hcount := count_unit hg
  unfold seconds Bounds.safeMax at h
  unfold Bounds.signed64Max
  cases hu : g.unit <;> rw [hu] at hcount <;> omega

end Range

/-- What the words of 64 bits hold when a span is read and its seconds are counted: a number and its
negation, the seconds of each unit, their sum and its absolute value. A sum that no word holds is
found out. -/
structure NeverWraps (s : TimeSpan) : Prop where
  negation : ∀ u n, s.amount u = some n → Bounds.IsSigned64 n ∧ Bounds.IsSigned64 (-n)
  products : ∀ n, s.totalSeconds = some n →
    Bounds.IsSigned64 (3600 * s.hours.getD 0) ∧ Bounds.IsSigned64 (60 * s.minutes.getD 0)
  sum : ∀ n, s.totalSeconds = some n → n = s.seconds ∧ Bounds.IsSigned64 n
  absolute : ∀ n, s.totalSeconds = some n → Bounds.IsSigned64 n.natAbs
  overflow : s.totalSeconds = none ↔ ¬ Bounds.IsSigned64 s.seconds

theorem Range.isSigned64_amount {r : Range} (hfits : r.Fits) {factor : Int}
    (hf : factor = 1 ∨ factor = -1) {u : TimeUnit} {n : Int}
    (hn : (r.span factor).amount u = some n) :
    Bounds.IsSigned64 n ∧ Bounds.IsSigned64 (-n) := by
  obtain ⟨g, hg, -, rfl⟩ := (r.amount_span factor u n).1 hn
  have hcount := hfits g hg
  unfold Bounds.IsSigned64
  rcases hf with rfl | rfl <;> omega

/-- The least word is no multiple of sixty. -/
theorem isSigned64_natAbs {s : TimeSpan} {n : Int} (h : s.totalSeconds = some n)
    (hn : Bounds.IsSigned64 n) : Bounds.IsSigned64 n.natAbs := by
  have hdvd := dvd_of_totalSeconds h
  unfold Bounds.IsSigned64 Bounds.signed64Max at hn ⊢
  omega

theorem neverWraps_of_parse {text : String} {span : TimeSpan} (h : parse text = .ok span) :
    span.NeverWraps := by
  obtain ⟨sign, r, -, hfits, rfl⟩ := read?_eq_some.1 (parse_eq_ok.1 h)
  have hf := Sign.factorOf_eq sign
  have haligned := r.isAligned_span hf
  have htotal := totalSeconds_eq haligned
  have hword : ∀ n, (r.span (Sign.factorOf sign)).totalSeconds = some n →
      n = (r.span (Sign.factorOf sign)).seconds ∧ Bounds.IsSigned64 n := by
    intro n hn
    rw [htotal, Bounds.signed64?_eq_some] at hn
    obtain ⟨hs, rfl⟩ := hn
    exact ⟨rfl, hs⟩
  constructor
  case negation => exact fun u n hn => Range.isSigned64_amount hfits hf hn
  case products =>
    intro n hn
    obtain ⟨rfl, hs⟩ := hword n hn
    exact isSigned64_parts haligned hs
  case sum => exact hword
  case absolute => exact fun n hn => isSigned64_natAbs hn (hword n hn).2
  case overflow => simp [htotal, Bounds.signed64?]

end TimeSpan

namespace Rounding

theorem isValid_iff {n : Nat} {u : TimeUnit} {d : Direction} :
    IsValid ⟨n, u, d⟩ ↔ (1 : Int) ≤ n ∧ (n : Int) < u.perParent ∧ (n : Int) ∣ u.perParent := by
  simp only [IsValid, Int.natCast_dvd_natCast, Nat.dvd_iff_mod_eq_zero]
  omega

theorem read_eq_ok_iff_written {value : List Char} {r : Rounding} :
    read value = .ok r ↔ ∃ d rest u, ∃ n : Int, value = sign d ++ rest ∧
      (d = .nearest → rest.head? ≠ some '+' ∧ rest.head? ≠ some '-') ∧
      TimeSpan.parse (String.ofList rest) = .ok (TimeSpan.empty.withAmount n u) ∧
      (1 ≤ n ∧ n < u.perParent ∧ n ∣ u.perParent) ∧ r = ⟨n.toNat, u, d⟩ := by
  rw [read_eq_ok]
  constructor
  · intro h
    obtain ⟨rest, hsplit, hparse, hvalid⟩ := h
    obtain ⟨hvalue, hhead⟩ := splitSign_eq.1 hsplit
    exact ⟨r.direction, rest, r.unit, r.increment, hvalue, hhead, hparse, isValid_iff.1 hvalid, rfl⟩
  · intro h
    obtain ⟨d, rest, u, n, hvalue, hhead, hparse, hn, rfl⟩ := h
    obtain ⟨k, rfl⟩ := Int.eq_ofNat_of_zero_le (Int.le_trans Int.one_nonneg hn.1)
    exact ⟨rest, splitSign_eq.2 ⟨hvalue, hhead⟩, hparse, isValid_iff.2 hn⟩

end Rounding

namespace ClockTime

theorem apply_signed (s : TimeSpan.Sign) (value : List Char) (round : Option Rounding)
    (format : Option String) :
    (mk none round format).apply (s.char :: value) =
      (fun n => mk (some n) round format) <$> shiftOf (s.char :: value) := by
  cases s with
  | plus => exact bind_pure_comp (fun n => mk (some n) round format) _
  | minus => exact bind_pure_comp (fun n => mk (some n) round format) _

theorem apply_tilde (value : List Char) (offset : Option Int) (format : Option String) :
    (mk offset none format).apply ('~' :: value) =
      (fun r => mk offset (some r) format) <$> Rounding.read value :=
  bind_pure_comp (fun r => mk offset (some r) format) _

theorem shiftOf_range {s : TimeSpan.Sign} {r : TimeSpan.Range} {n : Int} :
    shiftOf (s.char :: r.chars) = .ok n ↔
      r.seconds ≤ Bounds.safeMax ∧ n = s.factor * r.seconds := by
  have hread : TimeSpan.read? (s.char :: r.chars) = TimeSpan.readSigned s.factor r.chars :=
    TimeSpan.read?_signed (some s) r
  have htotal := TimeSpan.totalSeconds_eq (r.isAligned_span s.factor_eq)
  have hsafe : Bounds.IsSafe (s.factor * r.seconds) ↔ r.seconds ≤ Bounds.safeMax := by
    unfold Bounds.IsSafe
    rcases s.factor_eq with hf | hf <;> rw [hf] <;> omega
  rw [shiftOf_eq_ok, hread]
  constructor
  · intro h
    obtain ⟨span, hspan, hn, hbound⟩ := h
    obtain ⟨-, rfl⟩ := TimeSpan.readSigned_chars.1 hspan
    rw [htotal, Bounds.signed64?_eq_some, r.seconds_span] at hn
    obtain ⟨-, rfl⟩ := hn
    exact ⟨hsafe.1 hbound, rfl⟩
  · intro h
    obtain ⟨hle, rfl⟩ := h
    have hfits := TimeSpan.Range.fits_of_seconds_le hle
    refine ⟨_, TimeSpan.readSigned_chars.2 ⟨hfits, rfl⟩, ?_, hsafe.2 hle⟩
    rw [htotal, Bounds.signed64?_eq_some, r.seconds_span]
    exact ⟨(hsafe.2 hle).isSigned64, rfl⟩

/-- Time modifiers compute with numbers of any size. A range behind a sign is a shift while its
seconds are safe; no word wraps on the way, and seconds that no word holds are found out. Behind a
tilde one sign gives the direction, and the rest is a rounding when it counts one unit, by a number
below the next larger unit that divides it. -/
theorem apply_computes_exactly (offset : Option Int) (round : Option Rounding)
    (format : Option String) (t : ClockTime) :
    (∀ (s : TimeSpan.Sign) (r : TimeSpan.Range),
      (mk none round format).apply (s.char :: r.chars) = .ok t ↔
        r.seconds ≤ Bounds.safeMax ∧ t = ⟨some (s.factor * r.seconds), round, format⟩) ∧
    (∀ text span, TimeSpan.parse text = .ok span → span.NeverWraps) ∧
    ∀ value, (mk offset none format).apply ('~' :: value) = .ok t ↔
      ∃ d rest u, ∃ n : Int, value = Rounding.sign d ++ rest ∧
        (d = .nearest → rest.head? ≠ some '+' ∧ rest.head? ≠ some '-') ∧
        TimeSpan.parse (String.ofList rest) = .ok (TimeSpan.empty.withAmount n u) ∧
        (1 ≤ n ∧ n < u.perParent ∧ n ∣ u.perParent) ∧
        t = ⟨offset, some ⟨n.toNat, u, d⟩, format⟩ := by
  refine ⟨?_, fun text span => TimeSpan.neverWraps_of_parse, ?_⟩
  · intro s r
    rw [apply_signed, map_eq_ok]
    constructor
    · intro h
      obtain ⟨n, hn, rfl⟩ := h
      obtain ⟨hle, rfl⟩ := shiftOf_range.1 hn
      exact ⟨hle, rfl⟩
    · intro h
      obtain ⟨hle, rfl⟩ := h
      exact ⟨_, shiftOf_range.2 ⟨hle, rfl⟩, rfl⟩
  · intro value
    rw [apply_tilde, map_eq_ok]
    constructor
    · intro h
      obtain ⟨r, hr, rfl⟩ := h
      obtain ⟨d, rest, u, n, hvalue, hhead, hparse, hn, rfl⟩ := Rounding.read_eq_ok_iff_written.1 hr
      exact ⟨d, rest, u, n, hvalue, hhead, hparse, hn, rfl⟩
    · intro h
      obtain ⟨d, rest, u, n, hvalue, hhead, hparse, hn, rfl⟩ := h
      have hr := Rounding.read_eq_ok_iff_written.2
        ⟨d, rest, u, n, hvalue, hhead, hparse, hn, rfl⟩
      exact ⟨_, hr, rfl⟩

end ClockTime
end StatusLine
