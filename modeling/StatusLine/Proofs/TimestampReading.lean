import Mathlib.Data.List.TakeWhile
import StatusLine.Calendar.Timestamp
import StatusLine.Proofs.DayNumbers
import StatusLine.Proofs.Numerals

/-!
# Timestamps are read back

Every part of a timestamp is written with a fixed number of digits, or with a sign in front, or
before a character that is no digit, so that each reader takes exactly its part. An instant is then
put together again from its day and its second of the day.
-/
namespace StatusLine.Timestamp
open Unicode

theorem isBlank_of_isDigit {c : Char} (h : Digits.isDigit c = true) : isBlank c = false := by
  rw [Digits.isDigit_eq, Char.isDigit_iff_toNat] at h
  have hzero : '0'.toNat = 48 := rfl
  have hnine : '9'.toNat = 57 := rfl
  have hranges : ∀ r ∈ blankRanges, r.2 < 48 ∨ 57 < r.1 := by decide
  rw [← Bool.not_eq_true, isBlank, Ranges.contains_iff]
  intro h
  obtain ⟨r, hr, hlow, hhigh⟩ := h
  have hr := hranges r hr
  omega

theorem trimBlank_cons {c : Char} (h : isBlank c = false) (cs : List Char) :
    trimBlank (c :: cs) = c :: cs := by
  simp [trimBlank, h]

theorem mark?_cons {c : Char} (h : isBlank c = false) (cs : List Char) :
    mark? c (c :: cs) = some cs := by
  simp [mark?, trimBlank_cons h]

theorem trimBlank_digits {ds : List Char} (hd : ∀ c ∈ ds, Digits.isDigit c = true) (hne : ds ≠ [])
    (rest : List Char) : trimBlank (ds ++ rest) = ds ++ rest := by
  cases ds with
  | nil => exact absurd rfl hne
  | cons d ds => exact trimBlank_cons (isBlank_of_isDigit (hd d (by simp))) _

theorem number?_padded {width n : Nat} (hw : 0 < width) (h : n < Nat.pow 10 width)
    (rest : List Char) :
    number? width ((Digits.padded width n).toList ++ rest) = some (n, rest) := by
  have hlen := Digits.length_padded hw h
  have hd : ∀ c ∈ (Digits.padded width n).toList, Digits.isDigit c = true :=
    fun c => Digits.isDigit_of_mem_padded
  have hne : (Digits.padded width n).toList ≠ [] := by simp
  have htake : ((Digits.padded width n).toList ++ rest).take width =
      (Digits.padded width n).toList := List.take_left' hlen
  have hwhile : (Digits.padded width n).toList.takeWhile Digits.isDigit =
      (Digits.padded width n).toList := List.takeWhile_eq_self_iff.2 hd
  simp only [number?, trimBlank_digits hd hne, htake, hwhile]
  simp [hne]

theorem signed_padded (sign : Int) (n : Nat) {rest : List Char}
    (hr : ∀ c, rest.head? = some c → Digits.isDigit c = false) :
    year?.signed sign ((Digits.padded 4 n).toList ++ rest) = some (sign * n, rest) := by
  have hd : ∀ c ∈ (Digits.padded 4 n).toList, Digits.isDigit c = true :=
    fun c => Digits.isDigit_of_mem_padded
  obtain ⟨htake, hdrop⟩ := Digits.takeWhile_isDigit hd hr
  simp only [year?.signed, htake, hdrop]
  simp

theorem year?_minus (cs : List Char) : year? ('-' :: cs) = year?.signed (-1) cs := by
  rw [year?, trimBlank_cons (by decide)]
  rfl

theorem year?_plus (cs : List Char) : year? ('+' :: cs) = year?.signed 1 cs := by
  rw [year?, trimBlank_cons (by decide)]
  rfl

theorem year?_digits {cs : List Char} (h : ∀ c, cs.head? = some c → Digits.isDigit c = true)
    (hne : cs ≠ []) : year? cs = (number? 4 cs).map fun (n, cs) => ((n : Int), cs) := by
  cases cs with
  | nil => exact absurd rfl hne
  | cons c cs =>
    have hc : Digits.isDigit c = true := h c rfl
    rw [year?, trimBlank_cons (isBlank_of_isDigit hc)]
    split
    case h_1 h => exact absurd (List.cons.inj h).1 (Digits.ne_of_isDigit hc rfl)
    case h_2 h => exact absurd (List.cons.inj h).1 (Digits.ne_of_isDigit hc rfl)
    case h_3 => rfl

theorem year?_yearText (year : Int) {rest : List Char}
    (hr : ∀ c, rest.head? = some c → Digits.isDigit c = false) :
    year? ((yearText year).toList ++ rest) = some (year, rest) := by
  unfold yearText
  split
  case isTrue hy =>
    have hn := number?_padded (show 0 < 4 by decide) (show year.toNat < 10000 by omega) rest
    have hyear : ((year.toNat : Nat) : Int) = year := Int.toNat_of_nonneg hy.1
    rw [year?_digits _ (by simp), hn, Option.map_some]
    · exact congrArg (fun y => some (y, rest)) hyear
    · intro c hc
      rw [List.head?_append_of_ne_nil _ (by simp)] at hc
      exact Digits.isDigit_of_mem_padded (List.mem_of_mem_head? hc)
  case isFalse hy =>
    split
    case isTrue hneg =>
      have hyear : (-1) * (year.natAbs : Int) = year := by omega
      have hs := signed_padded (-1) year.natAbs hr
      rw [hyear, ← year?_minus] at hs
      simpa using hs
    case isFalse hpos =>
      have hyear : 1 * (year.natAbs : Int) = year := by omega
      have hs := signed_padded 1 year.natAbs hr
      rw [hyear, ← year?_plus] at hs
      simpa using hs

theorem fraction?_point {k n : Nat} (hk : 0 < k) (hk9 : k ≤ 9) (h : n < Nat.pow 10 k)
    {rest : List Char} (hr : ∀ c, rest.head? = some c → Digits.isDigit c = false) :
    fraction? ('.' :: (Digits.padded k n).toList ++ rest) =
      some (n * Nat.pow 10 (9 - k), rest) := by
  have hlen := Digits.length_padded hk h
  have hd : ∀ c ∈ (Digits.padded k n).toList, Digits.isDigit c = true :=
    fun c => Digits.isDigit_of_mem_padded
  obtain ⟨htake, hdrop⟩ := Digits.takeWhile_isDigit hd hr
  have hkept : (Digits.padded k n).toList.take 9 = (Digits.padded k n).toList :=
    List.take_of_length_le (by omega)
  rw [List.cons_append, fraction?, htake, hdrop]
  simp only [hkept, Digits.value_padded, hlen]
  simp

theorem fraction?_fractionText {nano : Nat} (h : nano < 1000000000) (rest : List Char) :
    fraction? ((fractionText nano).toList ++ 'Z' :: rest) = some (nano, 'Z' :: rest) := by
  have hr : ∀ c, ('Z' :: rest).head? = some c → Digits.isDigit c = false :=
    Digits.isDigit_head rfl rest
  unfold fractionText
  split_ifs with h0 h3 h6
  · subst h0
    rfl
  · have hf := fraction?_point (show 0 < 3 by decide) (by decide)
      (show nano / 1000000 < 1000 by omega) hr
    have hn : nano / 1000000 * 1000000 = nano := by omega
    rw [hn] at hf
    simpa using hf
  · have hf := fraction?_point (show 0 < 6 by decide) (by decide)
      (show nano / 1000 < 1000000 by omega) hr
    have hn : nano / 1000 * 1000 = nano := by omega
    rw [hn] at hf
    simpa using hf
  · have hf := fraction?_point (show 0 < 9 by decide) (by decide) h hr
    have hn : nano * 1 = nano := Nat.mul_one nano
    rw [hn] at hf
    simpa using hf

theorem date?_dateText {d : Date} (hd : d.IsValid) (hmin : Instant.minYear ≤ d.year)
    (hmax : d.year ≤ Instant.maxYear) (rest : List Char) :
    date? ((dateText d).toList ++ rest) = some (d, rest) := by
  obtain ⟨year, month, day⟩ := d
  obtain ⟨hm1, hm12, hd1, hd2⟩ : 1 ≤ month ∧ month ≤ 12 ∧ 1 ≤ day ∧
      day ≤ Date.daysInMonth year month := id hd
  have hday : day ≤ 31 := by
    refine Nat.le_trans hd2 ?_
    unfold Date.daysInMonth
    split
    · split <;> omega
    all_goals omega
  have hy : ∀ cs, year? ((yearText year).toList ++ '-' :: cs) = some (year, '-' :: cs) :=
    fun cs => year?_yearText year (Digits.isDigit_head rfl cs)
  have hmonth := number?_padded (show 0 < 2 by decide) (show month < 100 by omega)
    ('-' :: ((Digits.padded 2 day).toList ++ rest))
  have hdays := number?_padded (show 0 < 2 by decide) (show day < 100 by omega) rest
  have hdash : ∀ cs, mark? '-' ('-' :: cs) = some cs := mark?_cons (by decide)
  simp only [dateText, String.toList_append, List.append_assoc]
  simp only [show "-".toList = ['-'] from rfl, List.singleton_append]
  simp only [date?, hy, hmonth, hdays, hdash, Option.bind_eq_bind, Option.bind_some]
  rw [if_pos ⟨hd, hmin, hmax⟩]

theorem time?_text {hour minute second nano : Nat} (hh : hour ≤ 23) (hm : minute ≤ 59)
    (hs : second ≤ 60) (hn : nano < 1000000000) (rest : List Char) :
    time? ((Digits.padded 2 hour).toList ++ ':' :: ((Digits.padded 2 minute).toList ++
      ':' :: ((Digits.padded 2 second).toList ++ ((fractionText nano).toList ++ 'Z' :: rest)))) =
      some ((3600 * hour + 60 * minute + (second - second / 60),
        nano + second / 60 * 1000000000), 'Z' :: rest) := by
  have hpos : 0 < 2 := by decide
  have hhour := fun rest => number?_padded hpos (show hour < 100 by omega) rest
  have hminute := fun rest => number?_padded hpos (show minute < 100 by omega) rest
  have hsecond := fun rest => number?_padded hpos (show second < 100 by omega) rest
  have hcolon : ∀ cs, mark? ':' (':' :: cs) = some cs := mark?_cons (by decide)
  simp only [time?, hhour, hminute, hsecond, hcolon, fraction?_fractionText hn,
    Option.bind_eq_bind, Option.bind_some]
  rw [if_pos ⟨hh, hm, hs⟩]

theorem toList_write (t : Instant) :
    (write t).toList = (dateText t.date).toList ++ 'T' ::
      ((Digits.padded 2 (t.timeOfDay 0).hour).toList ++ ':' ::
        ((Digits.padded 2 (t.timeOfDay 0).minute).toList ++ ':' ::
          ((Digits.padded 2 ((t.timeOfDay 0).second % 60 + if t.isLeap then 1 else 0)).toList ++
            ((fractionText (t.nano % 1000000000)).toList ++ ['Z'])))) := by
  simp [write]

theorem second_eq (t : Instant) :
    86400 * t.date.dayNumber + ((t.timeOfDay 0).second : Int) = t.second := by
  have hday : t.date.dayNumber = t.second / 86400 := Date.dayNumber_ofDayNumber _
  have hsecond : ((t.timeOfDay 0).second : Int) = t.second % 86400 := by
    simp only [Instant.timeOfDay, Int.add_zero]
    exact Int.toNat_of_nonneg (Int.emod_nonneg _ (by decide))
  omega

theorem date?_date (t : Instant) (rest : List Char) :
    date? ((dateText t.date).toList ++ rest) = some (t.date, rest) := by
  obtain ⟨hmin, hmax, -, -⟩ := t.valid
  unfold Instant.minSecond at hmin
  unfold Instant.maxSecond at hmax
  obtain ⟨hy0, hy1⟩ := Date.year_ofDayNumber_bounds (n := t.second / 86400) (by omega) (by omega)
  exact date?_dateText (Date.isValid_ofDayNumber (t.second / 86400)) hy0 hy1 rest

/-- A leap second is written as second 60 and keeps its nanoseconds. -/
theorem time?_timeOfDay (t : Instant) :
    time? ((Digits.padded 2 (t.timeOfDay 0).hour).toList ++ ':' ::
      ((Digits.padded 2 (t.timeOfDay 0).minute).toList ++ ':' ::
        ((Digits.padded 2 ((t.timeOfDay 0).second % 60 + if t.isLeap then 1 else 0)).toList ++
          ((fractionText (t.nano % 1000000000)).toList ++ ['Z'])))) =
      some (((t.timeOfDay 0).second, t.nano), ['Z']) := by
  obtain ⟨-, -, hnano, hleap⟩ := t.valid
  have hlt := (t.timeOfDay 0).second_lt
  have hmod : ((t.timeOfDay 0).second : Int) % 60 = t.second % 60 := by
    rw [← second_eq t]
    omega
  have hhour : (t.timeOfDay 0).hour ≤ 23 := by
    unfold TimeOfDay.hour
    omega
  have hminute : (t.timeOfDay 0).minute ≤ 59 := by
    unfold TimeOfDay.minute
    omega
  have hwhole : 3600 * (t.timeOfDay 0).hour + 60 * (t.timeOfDay 0).minute +
      (t.timeOfDay 0).second % 60 = (t.timeOfDay 0).second := by
    unfold TimeOfDay.hour TimeOfDay.minute
    omega
  have hfraction : t.nano % 1000000000 < 1000000000 := Nat.mod_lt _ (by decide)
  by_cases hl : t.isLeap = true
  · have hlong : 1000000000 ≤ t.nano := by simpa [Instant.isLeap] using hl
    have hlast := hleap hlong
    have h59 : (t.timeOfDay 0).second % 60 = 59 := by omega
    rw [if_pos hl, h59, time?_text hhour hminute (by decide) hfraction]
    have hsecond : 3600 * (t.timeOfDay 0).hour + 60 * (t.timeOfDay 0).minute +
        (59 + 1 - (59 + 1) / 60) = (t.timeOfDay 0).second := by omega
    have hnanos : t.nano % 1000000000 + (59 + 1) / 60 * 1000000000 = t.nano := by omega
    rw [hsecond, hnanos]
  · have hshort : t.nano < 1000000000 := by simpa [Instant.isLeap] using hl
    rw [if_neg hl, Nat.add_zero, time?_text hhour hminute (by omega) hfraction]
    have hsecond : 3600 * (t.timeOfDay 0).hour + 60 * (t.timeOfDay 0).minute +
        ((t.timeOfDay 0).second % 60 - (t.timeOfDay 0).second % 60 / 60) =
          (t.timeOfDay 0).second := by omega
    have hnanos : t.nano % 1000000000 + (t.timeOfDay 0).second % 60 / 60 * 1000000000 =
        t.nano := by omega
    rw [hsecond, hnanos]

theorem read?_write (t : Instant) : read? (write t) = some t := by
  have hsecond := second_eq t
  have htrim : offset? (trimBlank ['Z']) = some (0, []) := by decide
  have hparts : Instant.ofParts? (86400 * t.date.dayNumber + ((t.timeOfDay 0).second : Int) - 0)
      t.nano = some t := Instant.ofParts?_eq_some.2 ⟨by omega, rfl⟩
  have hread : readZoned? (write t) = some (t, 0) := by
    simp only [readZoned?, toList_write, date?_date, time?_timeOfDay, htrim, hparts,
      Option.bind_eq_bind, Option.bind_some]
    rfl
  rw [read?, hread, Option.map_some]

end StatusLine.Timestamp
