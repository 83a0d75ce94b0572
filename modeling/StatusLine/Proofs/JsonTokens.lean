import StatusLine.Json.Printer
import StatusLine.Json.Reader
import StatusLine.Proofs.Numerals

/-!
# Strings and numbers of JSON are read back

A string is read up to its closing quote, every character from the piece that stands for it. A
number is read up to the character after it, which cannot go on with it.
-/
namespace StatusLine.Json

def Piece.Spells (p : Piece) (c : Char) : Prop := ∀ ps, spell (p :: ps) = (c :: ·) <$> spell ps

theorem spells_char (c : Char) : (Piece.char c).Spells c := fun _ => by rw [spell]

theorem spells_unit {n : Nat} (h : n < 0xD800) : (Piece.unit n).Spells (Char.ofNat n) := by
  intro ps
  have hhigh : isHighSurrogate n = false := by simp [isHighSurrogate]; omega
  have hlow : isLowSurrogate n = false := by simp [isLowSurrogate]; omega
  cases ps with
  | nil => simp [spell, hhigh, hlow]
  | cons p ps => cases p <;> simp [spell, hhigh, hlow]

theorem hexValue?_hexDigit : ∀ n < 16, hexValue? (hexDigit n) = some n := by decide

theorem pieces_short {e c : Char} (he : escaped? e = some c) (cs : List Char) :
    pieces ('\\' :: e :: cs) = (pieces cs).map fun (ps, rest) => (.char c :: ps, rest) := by
  have hu : e ≠ 'u' := by
    intro heq
    subst heq
    simp [escaped?] at he
  rw [pieces, he]
  · cases pieces cs <;> rfl
  · intro _ _ _ _ _ h
    exact absurd h hu

theorem pieces_control {n : Nat} (h : n < 32) (cs : List Char) :
    pieces ('\\' :: 'u' :: '0' :: '0' :: hexDigit (n / 16) :: hexDigit (n % 16) :: cs) =
      (pieces cs).map fun (ps, rest) => (.unit n :: ps, rest) := by
  have hhigh := hexValue?_hexDigit (n / 16) (by omega)
  have hlow := hexValue?_hexDigit (n % 16) (by omega)
  have hzero : hexValue? '0' = some 0 := by decide
  have hn : 4096 * 0 + 256 * 0 + 16 * (n / 16) + n % 16 = n := by omega
  have hhex : hex4? '0' '0' (hexDigit (n / 16)) (hexDigit (n % 16)) = some n := by
    simp only [hex4?, hzero, hhigh, hlow, Option.bind_eq_bind, Option.bind_some, hn]
    rfl
  rw [pieces, hhex]
  cases pieces cs <;> rfl

theorem pieces_plain {c : Char} (hq : c ≠ '"') (hb : c ≠ '\\') (h : 32 ≤ c.toNat)
    (cs : List Char) :
    pieces (c :: cs) = (pieces cs).map fun (ps, rest) => (.char c :: ps, rest) := by
  have hn : ¬ (c = '\\' ∨ c.toNat < 32) := by
    intro h
    rcases h with hc | hc
    · exact hb hc
    · omega
  rw [pieces, if_neg hn]
  · cases pieces cs <;> rfl
  · exact hq
  · exact fun _ _ _ _ _ hc => absurd hc hb
  · exact fun _ _ hc => absurd hc hb

theorem exists_piece (c : Char) :
    ∃ p : Piece, p.Spells c ∧ ∀ cs, pieces (escapeChar c ++ cs) =
      (pieces cs).map fun (ps, rest) => (p :: ps, rest) := by
  have hshort : ∀ e, escaped? e = some c →
      ∃ p : Piece, p.Spells c ∧ ∀ cs, pieces (['\\', e] ++ cs) =
        (pieces cs).map fun (ps, rest) => (p :: ps, rest) :=
    fun e he => ⟨.char c, spells_char c, fun cs => pieces_short he cs⟩
  unfold escapeChar
  split_ifs with hquote hslash h8 h9 h10 h12 h13 hcontrol
  · exact hshort '"' (by rw [hquote]; rfl)
  · exact hshort '\\' (by rw [hslash]; rfl)
  · exact hshort 'b' (by rw [h8]; rfl)
  · exact hshort 't' (by rw [h9]; rfl)
  · exact hshort 'n' (by rw [h10]; rfl)
  · exact hshort 'f' (by rw [h12]; rfl)
  · exact hshort 'r' (by rw [h13]; rfl)
  · have hspells := spells_unit (n := c.toNat) (by omega)
    rw [Char.ofNat_toNat] at hspells
    exact ⟨.unit c.toNat, hspells, fun cs => pieces_control hcontrol cs⟩
  · exact ⟨.char c, spells_char c, fun cs => pieces_plain hquote hslash (by omega) cs⟩

theorem exists_pieces (cs rest : List Char) :
    ∃ ps, pieces (cs.flatMap escapeChar ++ '"' :: rest) = some (ps, rest) ∧ spell ps = some cs := by
  induction cs with
  | nil => exact ⟨[], rfl, rfl⟩
  | cons c cs ih =>
    obtain ⟨ps, hps, hspell⟩ := ih
    obtain ⟨p, hp, hpieces⟩ := exists_piece c
    refine ⟨p :: ps, ?_, ?_⟩
    · rw [List.flatMap_cons, List.append_assoc, hpieces, hps]
      rfl
    · rw [hp, hspell]
      rfl

theorem exists_text (s : String) (rest : List Char) :
    ∃ ps, pieces (s.toList.flatMap escapeChar ++ '"' :: rest) = some (ps, rest) ∧
      text? ps = some s := by
  obtain ⟨ps, hps, hspell⟩ := exists_pieces s.toList rest
  exact ⟨ps, hps, by simp [text?, hspell]⟩

def Ends (c : Char) : Prop := c ∈ [',', ']', '}', ' ', '\n', '\t', '\r']

instance (c : Char) : Decidable (Ends c) := by unfold Ends; infer_instance

theorem ends_of_isBlank {c : Char} (h : isBlank c = true) : Ends c := by
  simp only [isBlank, Bool.or_eq_true, beq_iff_eq] at h
  rcases h with ((rfl | rfl) | rfl) | rfl <;> decide

theorem Ends.ne {c d : Char} (hc : Ends c) (hd : ¬ Ends d) : c ≠ d := by
  intro heq
  subst heq
  exact hd hc

theorem Ends.not_digit {c : Char} (hc : Ends c) : Digits.isDigit c = false := by
  simp only [Ends, List.mem_cons, List.not_mem_nil, or_false] at hc
  rcases hc with rfl | rfl | rfl | rfl | rfl | rfl | rfl <;> rfl

/-- A value ends before a comma, a bracket or a blank, or with the text. -/
def EndsValue (rest : List Char) : Prop := ∀ c, rest.head? = some c → Ends c

theorem endsValue_nil : EndsValue [] := by simp [EndsValue]

theorem endsValue_cons {c : Char} (hc : Ends c) (cs : List Char) : EndsValue (c :: cs) := by
  intro d hd
  obtain rfl := Option.some.inj hd
  exact hc

theorem endsValue_blanks {bs rest : List Char} (hbs : ∀ c ∈ bs, isBlank c = true)
    (hrest : EndsValue rest) : EndsValue (bs ++ rest) := by
  cases bs with
  | nil => exact hrest
  | cons b bs => exact endsValue_cons (ends_of_isBlank (hbs b List.mem_cons_self)) _

theorem fraction?_of_endsValue {rest : List Char} (h : EndsValue rest) :
    fraction? rest = some (none, rest) := by
  unfold fraction?
  split
  · exact absurd rfl ((h _ rfl).ne (by decide : ¬ Ends '.'))
  · rfl

theorem exponent?_of_endsValue {rest : List Char} (h : EndsValue rest) :
    exponent? rest = some (none, rest) := by
  unfold exponent?
  split
  · exact absurd rfl ((h _ rfl).ne (by decide : ¬ Ends 'e'))
  · exact absurd rfl ((h _ rfl).ne (by decide : ¬ Ends 'E'))
  · rfl

theorem digits?_toDigits (n : Nat) {rest : List Char} (h : EndsValue rest) :
    digits? (Nat.toDigits 10 n ++ rest) = some (Nat.toDigits 10 n, rest) := by
  have hd : ∀ c ∈ Nat.toDigits 10 n, Digits.isDigit c = true :=
    fun c => Digits.isDigit_of_mem_toDigits
  obtain ⟨htake, hdrop⟩ := Digits.takeWhile_isDigit hd fun c hc => (h c hc).not_digit
  simp only [digits?, htake, hdrop]
  simp [Nat.toDigits_ne_nil]

theorem head?_toDigits {n : Nat} (h : 0 < n) : (Nat.toDigits 10 n).head? ≠ some '0' := by
  induction n using Nat.strongRecOn with
  | ind n ih =>
    rw [Nat.toDigits_eq_if (by decide)]
    split
    case isTrue hn =>
      have hdigit : ∀ k < 10, 0 < k → Nat.digitChar k ≠ '0' := by decide
      simpa using hdigit n hn h
    case isFalse hn =>
      rw [List.head?_append_of_ne_nil _ Nat.toDigits_ne_nil]
      exact ih (n / 10) (by omega) (by omega)

theorem not_leadingZero (n : Nat) :
    ¬ ((Nat.toDigits 10 n).length > 1 ∧ (Nat.toDigits 10 n).head? = some '0') := by
  intro h
  obtain ⟨hlen, hhead⟩ := h
  by_cases hn : n = 0
  · subst hn
    simp at hlen
  · exact head?_toDigits (by omega) hhead

theorem isTooLarge_toDigits {n : Nat} (h : n ≤ Bounds.word64Max) :
    (Magnitude.ofDigits (Nat.toDigits 10 n) [] 0).isTooLarge = false := by
  have hvalue : Digits.valueFrom 0 (Nat.toDigits 10 n) = n := Digits.value_toDigits n
  have happend : Magnitude.append 0 (Nat.toDigits 10 n) = (n, []) := by
    rw [Magnitude.append_eq (by rwa [hvalue]), hvalue]
  have hdigits : Magnitude.ofDigits (Nat.toDigits 10 n) [] 0 = ⟨n, 0⟩ := by
    simp [Magnitude.ofDigits, happend, Magnitude.append]
  rw [hdigits]
  exact Magnitude.isTooLarge_eq_false h

theorem unsigned?_toDigits {negative : Bool} {n : Nat} (h : n ≤ Bounds.word64Max)
    (hneg : negative = true → n ≠ 0) {rest : List Char} (hrest : EndsValue rest) :
    unsigned? negative (Nat.toDigits 10 n ++ rest) =
      some (integer (if negative then -n else n), rest) := by
  have hv : Digits.value (Nat.toDigits 10 n) = n := Digits.value_toDigits n
  simp only [unsigned?, digits?_toDigits n hrest, fraction?_of_endsValue hrest,
    exponent?_of_endsValue hrest, Option.bind_eq_bind, Option.bind_some, if_neg (not_leadingZero n),
    Option.getD_none, isTooLarge_toDigits h, hv]
  cases negative with
  | false => rfl
  | true => simp [hneg rfl]

theorem number?_digit {c : Char} (hc : Digits.isDigit c = true) (cs : List Char) :
    number? (c :: cs) = unsigned? false (c :: cs) := by
  rw [number?]
  intro cs' h
  obtain ⟨rfl, -⟩ := List.cons.inj h
  simp [Digits.isDigit] at hc

theorem number?_integer {n : Int} (h : n.natAbs ≤ Bounds.word64Max) {rest : List Char}
    (hrest : EndsValue rest) : number? ((toString n).toList ++ rest) = some (integer n, rest) := by
  cases n with
  | ofNat m =>
    have htext : (toString (Int.ofNat m)).toList = Nat.toDigits 10 m := Nat.toList_repr
    obtain ⟨d, ds, hds⟩ := List.exists_cons_of_ne_nil (Nat.toDigits_ne_nil (n := m) (b := 10))
    have hd : Digits.isDigit d = true := Digits.isDigit_of_mem_toDigits (n := m) (by simp [hds])
    have hread : unsigned? false (Nat.toDigits 10 m ++ rest) = some (integer m, rest) :=
      unsigned?_toDigits h (by simp) hrest
    rw [hds, List.cons_append] at hread
    rw [htext, hds, List.cons_append, number?_digit hd, hread]
    rfl
  | negSucc m =>
    have htext : (toString (Int.negSucc m)).toList = '-' :: Nat.toDigits 10 (m + 1) := by
      have hminus : toString (Int.negSucc m) = "-" ++ toString (m + 1) := rfl
      rw [hminus, String.toList_append]
      exact congrArg ('-' :: ·) Nat.toList_repr
    have hread : unsigned? true (Nat.toDigits 10 (m + 1) ++ rest) =
        some (integer (-((m + 1 : Nat) : Int)), rest) :=
      unsigned?_toDigits h (by simp) hrest
    rw [htext, List.cons_append, number?, hread]
    rfl

end StatusLine.Json
