import StatusLine.Proofs.Escapes
import StatusLine.Proofs.ModifierSteps
import StatusLine.Proofs.TimeSpanReading

/-!
# Placeholders are written down and read back

`IsWritable` says which placeholders a body can ask for. `body` is one text for each of them, its
modifiers in the order of the fields, and reading it gives the placeholder back. In the other
direction, whatever is read from a body that does not end in a backslash is writable.
-/
namespace StatusLine
open Escaped

def Modifier.ofValue {α : Type} (identifier : Char) (write : α → List Char) (v : Option α) :
    List (List Char) :=
  (v.map fun a => identifier :: write a).toList

theorem Modifier.foldlM_ofValue {α σ : Type} {step : σ → List Char → Except Fault σ}
    {identifier : Char} {write : α → List Char} (fill : Option α → σ) {v : Option α}
    (h : ∀ a, v = some a → step (fill none) (identifier :: write a) = .ok (fill (some a))) :
    (Modifier.ofValue identifier write v).foldlM step (fill none) = .ok (fill v) := by
  cases v with
  | none => rfl
  | some a => simp [Modifier.ofValue, h a rfl]

/-- A modifier can stand before a comma and before the closing brace. -/
def Modifier.IsClosed (m : List Char) : Prop := m ≠ [] ∧ ¬ EndsInBackslash m

theorem Modifier.isClosed_cons {c : Char} {cs : List Char} (hc : c ≠ '\\')
    (h : ¬ EndsInBackslash cs) : Modifier.IsClosed (c :: cs) :=
  ⟨by simp, not_endsInBackslash_cons hc h⟩

theorem Modifier.isClosed_ofValue {α : Type} {identifier : Char} {write : α → List Char}
    {v : Option α} (hc : identifier ≠ '\\') (h : ∀ a, v = some a → ¬ EndsInBackslash (write a)) :
    ∀ m ∈ Modifier.ofValue identifier write v, Modifier.IsClosed m := by
  intro m hm
  cases v with
  | none => simp [Modifier.ofValue] at hm
  | some a =>
    obtain rfl : m = identifier :: write a := by simpa [Modifier.ofValue] using hm
    exact Modifier.isClosed_cons hc (h a rfl)

theorem not_endsInBackslash_toDigits (n : Nat) : ¬ EndsInBackslash (Nat.toDigits 10 n) :=
  fun h => absurd (Digits.isDigit_of_mem_toDigits h.mem) (by decide)

theorem not_endsInBackslash_group (n : Nat) (u : TimeUnit) :
    ¬ EndsInBackslash (TimeSpan.group n u) := by
  rw [TimeSpan.group, endsInBackslash_append_cons, endsInBackslash_singleton]
  cases u <;> decide

namespace DirectoryName

structure IsWritable (d : DirectoryName) : Prop where
  offset : ∀ n, d.offset = some n → Bounds.IsSafeIndex n
  joiner : ∀ s, d.joiner = some s → ¬ EndsInBackslash s.toList

def modifiers (d : DirectoryName) : List (List Char) :=
  Modifier.ofValue '+' (fun n => Nat.toDigits 10 n.toNat) d.offset ++
    Modifier.ofValue '>' (·.name.toList) d.format ++
    Modifier.ofValue '^' (·.name.toList) d.casing ++
    Modifier.ofValue '-' String.toList d.joiner

theorem offset?_toDigits {n : Nat} (h : n ≤ Bounds.safeMax) :
    offset? (Nat.toDigits 10 n) = some n := by
  have hdigit : ∀ c ∈ Nat.toDigits 10 n, Digits.isDigit c = true :=
    fun c => Digits.isDigit_of_mem_toDigits
  unfold offset?
  split
  case h_1 ds hds => exact absurd (hdigit '+' (by simp [hds])) (by decide)
  case h_2 ds hds => exact absurd (hdigit '-' (by simp [hds])) (by decide)
  case h_3 => simp [h]

theorem isSafeIndex_of_offset? {value : List Char} {n : Nat} (h : offset? value = some n) :
    Bounds.IsSafeIndex n := by
  have hbound : ∀ k : Nat, (if k ≤ Bounds.safeMax then some k else none) = some n →
      Bounds.IsSafeIndex n := by
    intro k hk
    split at hk
    case isTrue hle =>
      obtain rfl := Option.some.inj hk
      unfold Bounds.IsSafeIndex
      omega
    case isFalse => simp at hk
  unfold offset? at h
  split at h
  all_goals
    obtain ⟨k, -, hk⟩ := Option.bind_eq_some_iff.1 h
    exact hbound k hk

theorem foldlM_modifiers {d : DirectoryName} (h : d.IsWritable) :
    d.modifiers.foldlM apply empty = .ok d := by
  obtain ⟨offset, format, casing, joiner⟩ := d
  have h1 : (Modifier.ofValue '+' (fun n => Nat.toDigits 10 n.toNat) offset).foldlM apply empty =
      .ok ⟨offset, none, none, none⟩ := by
    refine Modifier.foldlM_ofValue (DirectoryName.mk · none none none) fun n hv => ?_
    subst hv
    have hn := h.offset n rfl
    refine apply_eq_ok.2 (Or.inl ⟨_, n.toNat, rfl, rfl, offset?_toDigits ?_, ?_⟩)
    · unfold Bounds.IsSafeIndex at hn
      omega
    · simp [Int.toNat_of_nonneg hn.1]
  have h2 : (Modifier.ofValue '>' (fun f : WordFormat => f.name.toList) format).foldlM apply
      ⟨offset, none, none, none⟩ = .ok ⟨offset, format, none, none⟩ := by
    refine Modifier.foldlM_ofValue (DirectoryName.mk offset · none none) fun f hv => ?_
    subst hv
    exact apply_eq_ok.2 (Or.inr (Or.inl ⟨_, f, rfl, rfl, by simp [WordFormat.ofName?_name], rfl⟩))
  have h3 : (Modifier.ofValue '^' (fun c : WordCasing => c.name.toList) casing).foldlM apply
      ⟨offset, format, none, none⟩ = .ok ⟨offset, format, casing, none⟩ := by
    refine Modifier.foldlM_ofValue (DirectoryName.mk offset format · none) fun c hv => ?_
    subst hv
    exact apply_eq_ok.2
      (Or.inr (Or.inr (Or.inl ⟨_, c, rfl, rfl, by simp [WordCasing.ofName?_name], rfl⟩)))
  have h4 : (Modifier.ofValue '-' String.toList joiner).foldlM apply
      ⟨offset, format, casing, none⟩ = .ok ⟨offset, format, casing, joiner⟩ := by
    refine Modifier.foldlM_ofValue (DirectoryName.mk offset format casing ·) fun s hv => ?_
    subst hv
    exact apply_eq_ok.2 (Or.inr (Or.inr (Or.inr ⟨_, rfl, rfl, by simp⟩)))
  simp only [modifiers, List.foldlM_append, h1, h2, h3, h4, ok_bind]

theorem IsWritable.apply {d d' : DirectoryName} {m : List Char} (hd : d.IsWritable)
    (hm : ¬ EndsInBackslash m) (h : d.apply m = .ok d') : d'.IsWritable := by
  rcases apply_eq_ok.1 h with ⟨value, n, rfl, -, hn, rfl⟩ | ⟨value, f, rfl, -, -, rfl⟩ |
    ⟨value, c, rfl, -, -, rfl⟩ | ⟨value, rfl, -, rfl⟩
  · refine ⟨?_, hd.joiner⟩
    intro k hk
    obtain rfl := Option.some.inj hk
    exact isSafeIndex_of_offset? hn
  · exact ⟨hd.offset, hd.joiner⟩
  · exact ⟨hd.offset, hd.joiner⟩
  · refine ⟨hd.offset, ?_⟩
    intro s hs
    obtain rfl := Option.some.inj hs
    intro hb
    rw [String.toList_ofList] at hb
    exact hm (hb.cons '-')

theorem isWritable_empty : empty.IsWritable := ⟨by simp [empty], by simp [empty]⟩

theorem isClosed_modifiers {d : DirectoryName} (h : d.IsWritable) :
    ∀ m ∈ d.modifiers, Modifier.IsClosed m := by
  simp only [modifiers, List.forall_mem_append]
  refine ⟨⟨⟨?_, ?_⟩, ?_⟩, ?_⟩
  · exact Modifier.isClosed_ofValue (by decide) fun n _ => not_endsInBackslash_toDigits n.toNat
  · exact Modifier.isClosed_ofValue (by decide) fun f _ => by cases f <;> decide
  · exact Modifier.isClosed_ofValue (by decide) fun c _ => by cases c <;> decide
  · exact Modifier.isClosed_ofValue (by decide) h.joiner

end DirectoryName

namespace GitReference

def modifiers (r : GitReference) : List (List Char) := ['?' :: r.name.toList]

theorem foldlM_modifiers (r : GitReference) : r.modifiers.foldlM apply none = .ok (some r) := by
  have h : apply none ('?' :: r.name.toList) = .ok (some r) :=
    apply_eq_ok.2 ⟨_, r, rfl, rfl, by simp [ofName?_name], rfl⟩
  simp [modifiers, h]

theorem isClosed_modifiers (r : GitReference) : ∀ m ∈ r.modifiers, Modifier.IsClosed m := by
  intro m hm
  obtain rfl := List.mem_singleton.1 hm
  exact Modifier.isClosed_cons (by decide) (by cases r <;> decide)

end GitReference

namespace InputChoice

structure IsWritable (i : InputChoice) : Prop where
  exclusive : i.mandatory = none ∨ i.optional = none
  values : ∀ vs, i.mandatory = some vs ∨ i.optional = some vs →
    vs ≠ [] ∧ ∀ v ∈ vs, ¬ EndsInBackslash v.toList

def writeValues (vs : List String) : List Char := join ';' (vs.map String.toList)

def modifiers (i : InputChoice) : List (List Char) :=
  Modifier.ofValue '=' writeValues i.mandatory ++ Modifier.ofValue '~' writeValues i.optional

theorem split_writeValues {vs : List String} (hne : vs ≠ [])
    (h : ∀ v ∈ vs, ¬ EndsInBackslash v.toList) :
    (split ';' (writeValues vs)).map String.ofList = vs := by
  have hj : IsJoinable (vs.map String.toList) := by
    intro p hp
    obtain ⟨v, hv, rfl⟩ := List.mem_map.1 (List.dropLast_subset _ hp)
    exact h v hv
  rw [writeValues, split_join (by decide) (by simpa using hne) hj, List.map_map]
  simp

theorem foldlM_modifiers {i : InputChoice} (h : i.IsWritable) :
    i.modifiers.foldlM apply empty = .ok i := by
  obtain ⟨mandatory, optional⟩ := i
  have h1 : (Modifier.ofValue '=' writeValues mandatory).foldlM apply empty =
      .ok ⟨mandatory, none⟩ := by
    refine Modifier.foldlM_ofValue (InputChoice.mk · none) fun vs hv => ?_
    subst hv
    obtain ⟨hne, hvs⟩ := h.values vs (Or.inl rfl)
    exact apply_eq_ok.2 (Or.inl ⟨_, rfl, rfl, rfl, by rw [split_writeValues hne hvs]⟩)
  have h2 : (Modifier.ofValue '~' writeValues optional).foldlM apply ⟨mandatory, none⟩ =
      .ok ⟨mandatory, optional⟩ := by
    refine Modifier.foldlM_ofValue (InputChoice.mk mandatory ·) fun vs hv => ?_
    subst hv
    obtain ⟨hne, hvs⟩ := h.values vs (Or.inr rfl)
    have hm : mandatory = none := h.exclusive.resolve_right (by simp)
    exact apply_eq_ok.2 (Or.inr ⟨_, rfl, hm, rfl, by rw [split_writeValues hne hvs]⟩)
  simp only [modifiers, List.foldlM_append, h1, h2, ok_bind]

theorem isWritable_empty : empty.IsWritable := ⟨Or.inl rfl, by simp [empty]⟩

theorem values_of_split {value : List Char} (h : ¬ EndsInBackslash value) :
    (split ';' value).map String.ofList ≠ [] ∧
      ∀ v ∈ (split ';' value).map String.ofList, ¬ EndsInBackslash v.toList := by
  refine ⟨by simpa using split_ne_nil ';' value, ?_⟩
  intro v hv
  obtain ⟨p, hp, rfl⟩ := List.mem_map.1 hv
  rw [String.toList_ofList]
  exact fun hb => h (endsInBackslash_of_mem_split (by decide) hp hb)

theorem IsWritable.apply {i i' : InputChoice} {m : List Char} (hm : ¬ EndsInBackslash m)
    (h : i.apply m = .ok i') : i'.IsWritable := by
  rcases apply_eq_ok.1 h with ⟨value, rfl, hn, ho, rfl⟩ | ⟨value, rfl, hn, ho, rfl⟩
  · have hv : ¬ EndsInBackslash value := fun hb => hm (hb.cons '=')
    refine ⟨Or.inr ho, ?_⟩
    intro vs h
    rcases h with hvs | hvs
    · obtain rfl := Option.some.inj hvs
      exact values_of_split hv
    · simp [ho] at hvs
  · have hv : ¬ EndsInBackslash value := fun hb => hm (hb.cons '~')
    refine ⟨Or.inl hn, ?_⟩
    intro vs h
    rcases h with hvs | hvs
    · simp [hn] at hvs
    · obtain rfl := Option.some.inj hvs
      exact values_of_split hv

theorem not_endsInBackslash_writeValues {vs : List String}
    (h : ∀ v ∈ vs, ¬ EndsInBackslash v.toList) : ¬ EndsInBackslash (writeValues vs) := by
  intro hb
  obtain ⟨p, hp, hpb⟩ := endsInBackslash_join (by decide) hb
  obtain ⟨v, hv, rfl⟩ := List.mem_map.1 hp
  exact h v hv hpb

theorem isClosed_modifiers {i : InputChoice} (h : i.IsWritable) :
    ∀ m ∈ i.modifiers, Modifier.IsClosed m := by
  simp only [modifiers, List.forall_mem_append]
  constructor
  · exact Modifier.isClosed_ofValue (by decide) fun vs hvs =>
      not_endsInBackslash_writeValues (h.values vs (Or.inl hvs)).2
  · exact Modifier.isClosed_ofValue (by decide) fun vs hvs =>
      not_endsInBackslash_writeValues (h.values vs (Or.inr hvs)).2

end InputChoice

namespace Rounding

def sign : Direction → List Char
  | .nearest => []
  | .up => ['+']
  | .down => ['-']

def write (r : Rounding) : List Char := sign r.direction ++ TimeSpan.group r.increment r.unit

theorem IsValid.increment_lt {r : Rounding} (h : r.IsValid) : r.increment < 60 := by
  have hp : r.unit.perParent ≤ 60 := by cases r.unit <;> decide
  exact Nat.lt_of_lt_of_le h.2.1 hp

theorem not_endsInBackslash_write (r : Rounding) : ¬ EndsInBackslash r.write := by
  have hg := not_endsInBackslash_group r.increment r.unit
  unfold write sign
  split
  · exact hg
  · exact not_endsInBackslash_cons (by decide) hg
  · exact not_endsInBackslash_cons (by decide) hg

theorem splitSign_eq {value rest : List Char} {d : Direction} :
    splitSign value = (d, rest) ↔
      value = sign d ++ rest ∧ (d = .nearest → rest.head? ≠ some '+' ∧ rest.head? ≠ some '-') := by
  constructor
  · intro h
    unfold splitSign at h
    split at h
    case h_1 range =>
      obtain ⟨rfl, rfl⟩ := Prod.mk.inj h
      exact ⟨rfl, by simp⟩
    case h_2 range =>
      obtain ⟨rfl, rfl⟩ := Prod.mk.inj h
      exact ⟨rfl, by simp⟩
    case h_3 hplus hminus =>
      obtain ⟨rfl, rfl⟩ := Prod.mk.inj h
      refine ⟨rfl, fun _ => ⟨fun hhead => ?_, fun hhead => ?_⟩⟩
      · obtain ⟨cs, hcs⟩ := List.head?_eq_some_iff.1 hhead
        exact hplus cs hcs
      · obtain ⟨cs, hcs⟩ := List.head?_eq_some_iff.1 hhead
        exact hminus cs hcs
  · intro h
    obtain ⟨rfl, hhead⟩ := h
    cases d with
    | up => rfl
    | down => rfl
    | nearest =>
      obtain ⟨hplus, hminus⟩ := hhead rfl
      rw [sign, List.nil_append]
      unfold splitSign
      split
      case h_1 => exact absurd rfl hplus
      case h_2 => exact absurd rfl hminus
      case h_3 => rfl

theorem splitSign_write (r : Rounding) :
    splitSign r.write = (r.direction, TimeSpan.group r.increment r.unit) := by
  refine splitSign_eq.2 ⟨rfl, fun _ => ⟨fun h => ?_, fun h => ?_⟩⟩
  · exact absurd (TimeSpan.isDigit_head_group h) (by decide)
  · exact absurd (TimeSpan.isDigit_head_group h) (by decide)

theorem ofAmount_eq_ok {text : String} {d : Direction} {n : Int} {u : TimeUnit} {r : Rounding} :
    ofAmount text d n u = .ok r ↔
      (n = r.increment ∧ u = r.unit ∧ d = r.direction) ∧ r.IsValid := by
  rw [ofAmount, ite_error_eq_ok, not_not]
  constructor
  · intro h
    obtain ⟨hword, h⟩ := h
    split at h
    case isTrue hvalid =>
      obtain rfl := Except.ok.inj h
      exact ⟨⟨(Int.toNat_of_nonneg hword.1).symm, rfl, rfl⟩, hvalid⟩
    case isFalse => simp at h
  · intro h
    obtain ⟨⟨rfl, rfl, rfl⟩, hvalid⟩ := h
    have hlt : r.increment < 60 := hvalid.increment_lt
    have hword : Bounds.IsWord32 (r.increment : Int) := by
      unfold Bounds.IsWord32 Bounds.word32Max
      omega
    exact ⟨hword, if_pos hvalid⟩

theorem ofSpan_eq_ok {text : String} {d : Direction} {span : TimeSpan} {r : Rounding} :
    ofSpan text d span = .ok r ↔
      span = TimeSpan.empty.withAmount r.increment r.unit ∧ d = r.direction ∧ r.IsValid := by
  constructor
  · intro h
    obtain ⟨hours, minutes⟩ := span
    unfold ofSpan at h
    split at h
    case h_1 n hhours hminutes =>
      obtain ⟨⟨rfl, hu, hd⟩, hvalid⟩ := ofAmount_eq_ok.1 h
      exact ⟨by rw [← hu]; exact congrArg₂ TimeSpan.mk hhours hminutes, hd, hvalid⟩
    case h_2 n hhours hminutes =>
      obtain ⟨⟨rfl, hu, hd⟩, hvalid⟩ := ofAmount_eq_ok.1 h
      exact ⟨by rw [← hu]; exact congrArg₂ TimeSpan.mk hhours hminutes, hd, hvalid⟩
    case h_3 => simp at h
  · intro h
    obtain ⟨rfl, rfl, hvalid⟩ := h
    have hamount : ofAmount text r.direction r.increment r.unit = .ok r :=
      ofAmount_eq_ok.2 ⟨⟨rfl, rfl, rfl⟩, hvalid⟩
    rw [← hamount]
    cases r.unit <;> rfl

theorem read_eq_ok {value : List Char} {r : Rounding} :
    read value = .ok r ↔ ∃ rest, splitSign value = (r.direction, rest) ∧
      TimeSpan.parse (String.ofList rest) = .ok (TimeSpan.empty.withAmount r.increment r.unit) ∧
      r.IsValid := by
  constructor
  · intro h
    obtain ⟨d, rest, hsplit⟩ : ∃ d rest, splitSign value = (d, rest) := ⟨_, _, rfl⟩
    rw [read, hsplit] at h
    obtain ⟨span, hparse, hspan⟩ := bind_eq_ok.1 h
    obtain ⟨rfl, rfl, hvalid⟩ := ofSpan_eq_ok.1 hspan
    exact ⟨rest, hsplit, hparse, hvalid⟩
  · intro h
    obtain ⟨rest, hsplit, hparse, hvalid⟩ := h
    rw [read, hsplit]
    exact bind_eq_ok.2 ⟨_, hparse, ofSpan_eq_ok.2 ⟨rfl, rfl, hvalid⟩⟩

theorem read_write {r : Rounding} (h : r.IsValid) : read r.write = .ok r := by
  have hlt : r.increment < 60 := h.increment_lt
  have hparse : TimeSpan.parse (String.ofList (TimeSpan.group r.increment r.unit)) =
      .ok (TimeSpan.empty.withAmount r.increment r.unit) := by
    rw [TimeSpan.parse_eq_ok, String.toList_ofList]
    exact TimeSpan.read?_group (by unfold Bounds.signed64Max; omega) r.unit
  exact read_eq_ok.2 ⟨_, splitSign_write r, hparse, h⟩

theorem isValid_of_read {value : List Char} {r : Rounding} (h : read value = .ok r) :
    r.IsValid := by
  obtain ⟨-, -, -, hvalid⟩ := read_eq_ok.1 h
  exact hvalid

end Rounding

namespace ClockTime

structure IsWritable (t : ClockTime) : Prop where
  offset : ∀ n, t.offset = some n → 60 ∣ n ∧ Bounds.IsSafe n
  round : ∀ r, t.round = some r → r.IsValid
  format : ∀ s, t.format = some s → ¬ EndsInBackslash s.toList ∧ s ∉ ["iso", "american", "german"]

def writeShift (n : Int) : List Char :=
  (if n < 0 then '-' else '+') :: TimeSpan.group (n.natAbs / 60) .minutes

def modifiers (t : ClockTime) : List (List Char) :=
  (t.offset.map writeShift).toList ++ Modifier.ofValue '~' Rounding.write t.round ++
    Modifier.ofValue '=' String.toList t.format

theorem shiftOf_eq_ok {m : List Char} {n : Int} :
    shiftOf m = .ok n ↔
      ∃ span, TimeSpan.read? m = some span ∧ span.totalSeconds = some n ∧ Bounds.IsSafe n := by
  unfold shiftOf
  simp only [bind_eq_ok, TimeSpan.parse_eq_ok, String.toList_ofList]
  refine exists_congr fun span => and_congr_right fun _ => ?_
  cases hs : span.totalSeconds with
  | none => simp
  | some seconds =>
    by_cases hsafe : Bounds.IsSafe seconds
    · simp only [if_pos hsafe, Except.ok.injEq, Option.some.injEq]
      constructor
      · intro heq
        subst heq
        exact ⟨rfl, hsafe⟩
      · intro h
        obtain ⟨rfl, -⟩ := h
        rfl
    · simp only [if_neg hsafe, reduceCtorEq, Option.some.injEq, false_iff]
      intro h
      obtain ⟨rfl, h⟩ := h
      exact hsafe h

theorem shiftOf_writeShift {n : Int} (hdvd : 60 ∣ n) (hsafe : Bounds.IsSafe n) :
    shiftOf (writeShift n) = .ok n := by
  have hbound : n.natAbs / 60 ≤ Bounds.signed64Max := by
    unfold Bounds.IsSafe Bounds.safeMax at hsafe
    unfold Bounds.signed64Max
    omega
  have hminutes : ∀ k : Int, 60 * k = n →
      (TimeSpan.empty.withAmount k .minutes).totalSeconds = some n := by
    intro k heq
    subst heq
    exact TimeSpan.totalSeconds_withAmount (u := .minutes) hsafe.isSigned64
  rw [shiftOf_eq_ok]
  unfold writeShift
  split
  case isTrue hneg =>
    have hn : 60 * -((n.natAbs / 60 : Nat) : Int) = n := by omega
    exact ⟨_, TimeSpan.read?_minus_group hbound .minutes, hminutes _ hn, hsafe⟩
  case isFalse hpos =>
    have hn : 60 * ((n.natAbs / 60 : Nat) : Int) = n := by omega
    exact ⟨_, TimeSpan.read?_plus_group hbound .minutes, hminutes _ hn, hsafe⟩

theorem namedPattern_eq_self {s : String} (h : s ∉ ["iso", "american", "german"]) :
    namedPattern s = s := by
  unfold namedPattern
  split <;> simp_all

theorem foldlM_modifiers {t : ClockTime} (h : t.IsWritable) :
    t.modifiers.foldlM apply empty = .ok t := by
  obtain ⟨offset, round, format⟩ := t
  have h1 : (offset.map writeShift).toList.foldlM apply empty = .ok ⟨offset, none, none⟩ := by
    cases offset with
    | none => rfl
    | some n =>
      obtain ⟨hdvd, hsafe⟩ := h.offset n rfl
      have happly : apply empty (writeShift n) = .ok ⟨some n, none, none⟩ := by
        refine apply_eq_ok.2 (Or.inl ⟨_, _, n, rfl, ?_, rfl, shiftOf_writeShift hdvd hsafe, rfl⟩)
        split <;> simp
      simp [happly]
  have h2 : (Modifier.ofValue '~' Rounding.write round).foldlM apply ⟨offset, none, none⟩ =
      .ok ⟨offset, round, none⟩ := by
    refine Modifier.foldlM_ofValue (ClockTime.mk offset · none) fun r hv => ?_
    subst hv
    exact apply_eq_ok.2
      (Or.inr (Or.inl ⟨_, r, rfl, rfl, Rounding.read_write (h.round r rfl), rfl⟩))
  have h3 : (Modifier.ofValue '=' String.toList format).foldlM apply ⟨offset, round, none⟩ =
      .ok ⟨offset, round, format⟩ := by
    refine Modifier.foldlM_ofValue (ClockTime.mk offset round ·) fun s hv => ?_
    subst hv
    have hs := namedPattern_eq_self (h.format s rfl).2
    exact apply_eq_ok.2 (Or.inr (Or.inr ⟨_, rfl, rfl, by rw [String.ofList_toList, hs]⟩))
  simp only [modifiers, List.foldlM_append, h1, h2, h3, ok_bind]

theorem isWritable_empty : empty.IsWritable := ⟨by simp [empty], by simp [empty], by simp [empty]⟩

/-- The patterns with a name are not names themselves. -/
theorem namedPattern_format {value : List Char} (h : ¬ EndsInBackslash value) :
    ¬ EndsInBackslash (namedPattern (String.ofList value)).toList ∧
      namedPattern (String.ofList value) ∉ ["iso", "american", "german"] := by
  unfold namedPattern
  split
  case h_4 h1 h2 h3 =>
    rw [String.toList_ofList]
    exact ⟨h, by simpa using And.intro h1 (And.intro h2 h3)⟩
  all_goals exact ⟨by decide, by decide⟩

theorem IsWritable.apply {t t' : ClockTime} {m : List Char} (ht : t.IsWritable)
    (hm : ¬ EndsInBackslash m) (h : t.apply m = .ok t') : t'.IsWritable := by
  rcases apply_eq_ok.1 h with ⟨sign, value, n, rfl, -, -, hn, rfl⟩ | ⟨value, r, rfl, -, hr, rfl⟩ |
    ⟨value, rfl, -, rfl⟩
  · obtain ⟨span, -, hs, hsafe⟩ := shiftOf_eq_ok.1 hn
    refine ⟨?_, ht.round, ht.format⟩
    intro k hk
    obtain rfl := Option.some.inj hk
    exact ⟨TimeSpan.dvd_of_totalSeconds hs, hsafe⟩
  · refine ⟨ht.offset, ?_, ht.format⟩
    intro s hs
    obtain rfl := Option.some.inj hs
    exact Rounding.isValid_of_read hr
  · refine ⟨ht.offset, ht.round, ?_⟩
    intro s hs
    obtain rfl := Option.some.inj hs
    exact namedPattern_format fun hb => hm (hb.cons '=')

theorem isClosed_modifiers {t : ClockTime} (h : t.IsWritable) :
    ∀ m ∈ t.modifiers, Modifier.IsClosed m := by
  simp only [modifiers, List.forall_mem_append]
  refine ⟨⟨?_, ?_⟩, ?_⟩
  · intro m hm
    obtain ⟨n, -, rfl⟩ : ∃ n, t.offset = some n ∧ writeShift n = m := by simpa using hm
    exact Modifier.isClosed_cons (by split <;> decide) (not_endsInBackslash_group _ _)
  · exact Modifier.isClosed_ofValue (by decide) fun r _ => Rounding.not_endsInBackslash_write r
  · exact Modifier.isClosed_ofValue (by decide) fun s hs => (h.format s hs).1

end ClockTime

namespace Placeholder

def IsWritable : Placeholder → Prop
  | directory d => d.IsWritable
  | git _ => True
  | input i => i.IsWritable
  | time t => t.IsWritable

def modifierTexts : Placeholder → List (List Char)
  | directory d => d.modifiers
  | git r => r.modifiers
  | input i => i.modifiers
  | time t => t.modifiers

def body (p : Placeholder) : List Char := p.letter :: join ',' p.modifierTexts

theorem modifiers_join {ms : List (List Char)}
    (h : ∀ m ∈ ms, Modifier.IsClosed m) : modifiers (join ',' ms) = ms := by
  by_cases hms : ms = []
  · subst hms
    rfl
  · have hj : IsJoinable ms := fun m hm => (h m (List.dropLast_subset _ hm)).2
    have hsplit : split ',' (join ',' ms) = ms := split_join (by decide) hms hj
    have hne : join ',' ms ≠ [] := by
      intro hnil
      rw [hnil] at hsplit
      exact (h [] (hsplit ▸ List.mem_singleton_self [])).1 rfl
    simp [modifiers, hne, hsplit]

theorem isClosed_modifierTexts {p : Placeholder} (h : p.IsWritable) :
    ∀ m ∈ p.modifierTexts, Modifier.IsClosed m := by
  cases p with
  | directory d => exact DirectoryName.isClosed_modifiers h
  | git r => exact GitReference.isClosed_modifiers r
  | input i => exact InputChoice.isClosed_modifiers h
  | time t => exact ClockTime.isClosed_modifiers h

theorem read_body {p : Placeholder} (h : p.IsWritable) : read p.body = .ok p := by
  have hms := modifiers_join (isClosed_modifierTexts h)
  cases p with
  | directory d =>
    have hd := DirectoryName.foldlM_modifiers (d := d) h
    simp only [body, modifierTexts, letter] at hms ⊢
    simp only [read, List.tail_cons, List.head?_cons, hms, hd]
    rfl
  | git r =>
    have hr := GitReference.foldlM_modifiers r
    simp only [body, modifierTexts, letter] at hms ⊢
    simp only [read, List.tail_cons, List.head?_cons, hms, hr]
    rfl
  | input i =>
    have hi := InputChoice.foldlM_modifiers (i := i) h
    simp only [body, modifierTexts, letter] at hms ⊢
    simp only [read, List.tail_cons, List.head?_cons, hms, hi]
    rfl
  | time t =>
    have ht := ClockTime.foldlM_modifiers (t := t) h
    simp only [body, modifierTexts, letter] at hms ⊢
    simp only [read, List.tail_cons, List.head?_cons, hms, ht]
    rfl

theorem not_endsInBackslash_body {p : Placeholder} (h : p.IsWritable) :
    ¬ EndsInBackslash p.body := by
  intro hb
  by_cases hnil : join ',' p.modifierTexts = []
  · rw [body, hnil, endsInBackslash_singleton] at hb
    cases p <;> simp [letter] at hb
  · rw [body, endsInBackslash_cons _ hnil] at hb
    obtain ⟨m, hm, hmb⟩ := endsInBackslash_join (by decide) hb
    exact (isClosed_modifierTexts h m hm).2 hmb

theorem isWritable_of_read {cs : List Char} {p : Placeholder} (hcs : ¬ EndsInBackslash cs)
    (h : read cs = .ok p) : p.IsWritable := by
  have hms : ∀ m ∈ modifiers cs.tail, ¬ EndsInBackslash m := by
    intro m hm hb
    unfold modifiers at hm
    split at hm
    · simp at hm
    · have htail := endsInBackslash_of_mem_split (by decide) hm hb
      cases cs with
      | nil => simp at htail
      | cons c cs => exact hcs (htail.cons c)
  unfold read at h
  split at h
  · obtain ⟨d, hd, rfl⟩ := map_eq_ok.1 h
    exact foldlM_invariant
      (fun m hm _ _ hs hstep => DirectoryName.IsWritable.apply hs (hms m hm) hstep)
      DirectoryName.isWritable_empty hd
  · obtain ⟨r, -, hr⟩ := bind_eq_ok.1 h
    split at hr
    · obtain rfl := Except.ok.inj hr
      trivial
    · simp at hr
  · obtain ⟨i, hi, rfl⟩ := map_eq_ok.1 h
    exact foldlM_invariant (fun m hm _ _ _ hstep => InputChoice.IsWritable.apply (hms m hm) hstep)
      InputChoice.isWritable_empty hi
  · obtain ⟨t, ht, rfl⟩ := map_eq_ok.1 h
    exact foldlM_invariant (fun m hm _ _ hs hstep => ClockTime.IsWritable.apply hs (hms m hm) hstep)
      ClockTime.isWritable_empty ht
  · simp at h

end Placeholder
end StatusLine
