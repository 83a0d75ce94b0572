import StatusLine.Proofs.ModifierSlots

/-!
# The forms of placeholders

Each kind of placeholder is a form: a table of identifiers and slots, and the laws of its step.
Where two identifiers share a slot, the table is where it says so.
-/
namespace StatusLine

namespace DirectoryName

def slot? : Char → Option Slot
  | '+' => some .offset
  | '>' => some .format
  | '^' => some .casing
  | '-' => some .joiner
  | _ => none

def form : Form DirectoryName where
  empty := empty
  apply := apply
  union d e := ⟨d.offset.or e.offset, d.format.or e.format, d.casing.or e.casing,
    d.joiner.or e.joiner⟩
  slot? := slot?
  reuse _ n := .modifierRepeated (Modifier.identifier n)

variable {d d' : DirectoryName} {m : List Char}

theorem slot?_eq_some {c : Char} {k : Slot} : slot? c = some k ↔
    c = '+' ∧ k = .offset ∨ c = '>' ∧ k = .format ∨ c = '^' ∧ k = .casing ∨
      c = '-' ∧ k = .joiner := by
  unfold slot?
  split <;> simp_all [eq_comm]

theorem apply_unknown (h : form.slotOf m = none) (d : DirectoryName) :
    d.apply m = .error (.modifierUnknown (Modifier.identifier m)) := by
  unfold apply
  split <;> simp_all [Form.slotOf, form, slot?]

theorem filled_of_apply (h : d.apply m = .ok d') :
    (form.slotOf m = some .offset → d'.offset.isSome) ∧
      (form.slotOf m = some .format → d'.format.isSome) ∧
      (form.slotOf m = some .casing → d'.casing.isSome) ∧
      (form.slotOf m = some .joiner → d'.joiner.isSome) := by
  rcases apply_eq_ok.1 h with ⟨value, n, rfl, -, -, rfl⟩ | ⟨value, f, rfl, -, -, rfl⟩ |
    ⟨value, c, rfl, -, -, rfl⟩ | ⟨value, rfl, -, rfl⟩ <;> simp [Form.slotOf, form, slot?]

theorem kept_of_apply (h : d.apply m = .ok d') :
    (form.slotOf m ≠ some .offset → d'.offset = d.offset) ∧
      (form.slotOf m ≠ some .format → d'.format = d.format) ∧
      (form.slotOf m ≠ some .casing → d'.casing = d.casing) ∧
      (form.slotOf m ≠ some .joiner → d'.joiner = d.joiner) := by
  rcases apply_eq_ok.1 h with ⟨value, n, rfl, -, -, rfl⟩ | ⟨value, f, rfl, -, -, rfl⟩ |
    ⟨value, c, rfl, -, -, rfl⟩ | ⟨value, rfl, -, rfl⟩ <;> simp [Form.slotOf, form, slot?]

theorem isLawful_form : form.IsLawful where
  adds {s s' m} h := by
    rcases apply_eq_ok.1 h with ⟨value, n, rfl, hs, hn, rfl⟩ | ⟨value, f, rfl, hs, hf, rfl⟩ |
      ⟨value, c, rfl, hs, hc, rfl⟩ | ⟨value, rfl, hs, rfl⟩
    · have hpart : empty.apply ('+' :: value) = .ok { empty with offset := some (n : Int) } :=
        apply_eq_ok.2 (Or.inl ⟨value, n, rfl, rfl, hn, rfl⟩)
      exact ⟨⟨.offset, rfl⟩, _, hpart, by simp [form, empty, hs]⟩
    · have hpart : empty.apply ('>' :: value) = .ok { empty with format := some f } :=
        apply_eq_ok.2 (Or.inr (Or.inl ⟨value, f, rfl, rfl, hf, rfl⟩))
      exact ⟨⟨.format, rfl⟩, _, hpart, by simp [form, empty, hs]⟩
    · have hpart : empty.apply ('^' :: value) = .ok { empty with casing := some c } :=
        apply_eq_ok.2 (Or.inr (Or.inr (Or.inl ⟨value, c, rfl, rfl, hc, rfl⟩)))
      exact ⟨⟨.casing, rfl⟩, _, hpart, by simp [form, empty, hs]⟩
    · have hpart : empty.apply ('-' :: value) =
          .ok { empty with joiner := some (String.ofList value) } :=
        apply_eq_ok.2 (Or.inr (Or.inr (Or.inr ⟨value, rfl, rfl, rfl⟩)))
      exact ⟨⟨.joiner, rfl⟩, _, hpart, by simp [form, empty, hs]⟩
  closes {s s' m n} h hsame := by
    have hfilled := filled_of_apply h
    obtain ⟨k, hm, hn⟩ := hsame
    obtain ⟨c, value, rfl, hc⟩ := Form.slotOf_eq_some.1 hn
    rcases slot?_eq_some.1 hc with ⟨rfl, rfl⟩ | ⟨rfl, rfl⟩ | ⟨rfl, rfl⟩ | ⟨rfl, rfl⟩
    · simp [form, apply, hfilled.1 hm, Modifier.identifier]
    · simp [form, apply, hfilled.2.1 hm, Modifier.identifier]
    · simp [form, apply, hfilled.2.2.1 hm, Modifier.identifier]
    · simp [form, apply, hfilled.2.2.2 hm, Modifier.identifier]
  keeps {s s' m n f} h hne := by
    have hkept := kept_of_apply h
    cases hn : form.slotOf n with
    | none => simp only [form, apply_unknown hn]
    | some k =>
      have hm : form.slotOf m ≠ some k := fun hm => hne ⟨k, hm, hn⟩
      obtain ⟨c, value, rfl, hc⟩ := Form.slotOf_eq_some.1 hn
      rcases slot?_eq_some.1 hc with ⟨rfl, rfl⟩ | ⟨rfl, rfl⟩ | ⟨rfl, rfl⟩ | ⟨rfl, rfl⟩
      · cases hs : s.offset <;> cases hv : offset? value <;>
          simp [form, apply, hkept.1 hm, hs, hv]
      · cases hs : s.format <;> cases hv : WordFormat.ofName? (String.ofList value) <;>
          simp [form, apply, hkept.2.1 hm, hs, hv]
      · cases hs : s.casing <;> cases hv : WordCasing.ofName? (String.ofList value) <;>
          simp [form, apply, hkept.2.2.1 hm, hs, hv]
      · cases hs : s.joiner <;> simp [form, apply, hkept.2.2.2 hm, hs]
  union_comm {m n a b} s hm hn hne := by
    have ha := kept_of_apply hm
    have hb := kept_of_apply hn
    have hslot := Form.ne_or_ne hne
    simp only [form, mk.injEq]
    exact ⟨Slot.or_swap _ ((hslot .offset).imp ha.1 hb.1),
      Slot.or_swap _ ((hslot .format).imp ha.2.1 hb.2.1),
      Slot.or_swap _ ((hslot .casing).imp ha.2.2.1 hb.2.2.1),
      Slot.or_swap _ ((hslot .joiner).imp ha.2.2.2 hb.2.2.2)⟩

end DirectoryName

namespace GitReference

def slot? : Char → Option Slot
  | '?' => some .reference
  | _ => none

def form : Form (Option GitReference) where
  empty := none
  apply := apply
  union := Option.or
  slot? := slot?
  reuse _ n := .modifierRepeated (Modifier.identifier n)

variable {m : List Char}

theorem slot?_eq_some {c : Char} {k : Slot} : slot? c = some k ↔ c = '?' ∧ k = .reference := by
  unfold slot?
  split <;> simp_all [eq_comm]

theorem apply_unknown (h : form.slotOf m = none) (r : Option GitReference) :
    apply r m = .error (.modifierUnknown (Modifier.identifier m)) := by
  unfold apply
  split <;> simp_all [Form.slotOf, form, slot?]

theorem slotOf_of_apply {r r' : Option GitReference} (h : apply r m = .ok r') :
    form.slotOf m = some .reference := by
  obtain ⟨value, x, rfl, -, -, -⟩ := apply_eq_ok.1 h
  rfl

theorem isLawful_form : form.IsLawful where
  adds {s s' m} h := by
    obtain ⟨value, x, rfl, rfl, hx, rfl⟩ := apply_eq_ok.1 h
    exact ⟨⟨.reference, rfl⟩, _, h, rfl⟩
  closes {s s' m n} h hsame := by
    obtain ⟨-, x, -, -, -, rfl⟩ := apply_eq_ok.1 h
    obtain ⟨k, -, hn⟩ := hsame
    obtain ⟨c, value, rfl, hc⟩ := Form.slotOf_eq_some.1 hn
    obtain ⟨rfl, -⟩ := slot?_eq_some.1 hc
    rfl
  keeps {s s' m n f} h hne := by
    have hn := Form.slotOf_eq_none (fun hc => (slot?_eq_some.1 hc).2) (slotOf_of_apply h) hne
    simp only [form, apply_unknown hn]
  union_comm {m n a b} s hm hn hne := by
    exact absurd ⟨_, slotOf_of_apply hm, slotOf_of_apply hn⟩ hne

end GitReference

namespace InputChoice

def slot? : Char → Option Slot
  | '=' | '~' => some .values
  | _ => none

def form : Form InputChoice where
  empty := empty
  apply := apply
  union i j := ⟨i.mandatory.or j.mandatory, i.optional.or j.optional⟩
  slot? := slot?
  reuse m n :=
    if m.head? = n.head? then .modifierRepeated (Modifier.identifier n)
    else .modifierConflict (Modifier.identifier n) (Modifier.identifier m)

variable {m : List Char}

theorem slot?_eq_some {c : Char} {k : Slot} :
    slot? c = some k ↔ (c = '=' ∨ c = '~') ∧ k = .values := by
  unfold slot?
  split <;> simp_all [eq_comm]

theorem apply_unknown (h : form.slotOf m = none) (i : InputChoice) :
    i.apply m = .error (.modifierUnknown (Modifier.identifier m)) := by
  unfold apply
  split <;> simp_all [Form.slotOf, form, slot?]

theorem slotOf_of_apply {i i' : InputChoice} (h : i.apply m = .ok i') :
    form.slotOf m = some .values := by
  rcases apply_eq_ok.1 h with ⟨value, rfl, -, -, -⟩ | ⟨value, rfl, -, -, -⟩ <;> rfl

theorem isLawful_form : form.IsLawful where
  adds {s s' m} h := by
    rcases apply_eq_ok.1 h with ⟨value, rfl, hm, ho, rfl⟩ | ⟨value, rfl, hm, ho, rfl⟩
    · have hpart := apply_eq_ok (i := empty).2 (Or.inl ⟨value, rfl, rfl, rfl, rfl⟩)
      exact ⟨⟨.values, rfl⟩, _, hpart, by simp [form, empty, hm, ho]⟩
    · have hpart := apply_eq_ok (i := empty).2 (Or.inr ⟨value, rfl, rfl, rfl, rfl⟩)
      exact ⟨⟨.values, rfl⟩, _, hpart, by simp [form, empty, hm, ho]⟩
  closes {s s' m n} h hsame := by
    obtain ⟨k, -, hn⟩ := hsame
    obtain ⟨c, value, rfl, hc⟩ := Form.slotOf_eq_some.1 hn
    obtain ⟨hc, -⟩ := slot?_eq_some.1 hc
    -- A list of the same kind is a repetition, one of the other kind a conflict.
    rcases apply_eq_ok.1 h with ⟨_, rfl, hm, ho, rfl⟩ | ⟨_, rfl, hm, ho, rfl⟩
    · rcases hc with rfl | rfl
      · rfl
      · simp [form, apply, ho, Modifier.identifier]
    · rcases hc with rfl | rfl
      · simp [form, apply, hm, Modifier.identifier]
      · rfl
  keeps {s s' m n f} h hne := by
    have hn := Form.slotOf_eq_none (fun hc => (slot?_eq_some.1 hc).2) (slotOf_of_apply h) hne
    simp only [form, apply_unknown hn]
  union_comm {m n a b} s hm hn hne := by
    exact absurd ⟨_, slotOf_of_apply hm, slotOf_of_apply hn⟩ hne

end InputChoice

namespace ClockTime

def slot? : Char → Option Slot
  | '+' | '-' => some .offset
  | '~' => some .rounding
  | '=' => some .format
  | _ => none

def form : Form ClockTime where
  empty := empty
  apply := apply
  union t u := ⟨t.offset.or u.offset, t.round.or u.round, t.format.or u.format⟩
  slot? := slot?
  reuse _ n := .modifierRepeated (Modifier.identifier n)

variable {t t' : ClockTime} {m : List Char}

theorem slot?_eq_some {c : Char} {k : Slot} : slot? c = some k ↔
    (c = '+' ∨ c = '-') ∧ k = .offset ∨ c = '~' ∧ k = .rounding ∨ c = '=' ∧ k = .format := by
  unfold slot?
  split <;> simp_all [eq_comm]

theorem apply_unknown (h : form.slotOf m = none) (t : ClockTime) :
    t.apply m = .error (.modifierUnknown (Modifier.identifier m)) := by
  unfold apply
  split <;> simp_all [Form.slotOf, form, slot?]

theorem filled_of_apply (h : t.apply m = .ok t') :
    (form.slotOf m = some .offset → t'.offset.isSome) ∧
      (form.slotOf m = some .rounding → t'.round.isSome) ∧
      (form.slotOf m = some .format → t'.format.isSome) := by
  rcases apply_eq_ok.1 h with ⟨sign, value, n, rfl, rfl | rfl, -, -, rfl⟩ |
    ⟨value, r, rfl, -, -, rfl⟩ | ⟨value, rfl, -, rfl⟩ <;> simp [Form.slotOf, form, slot?]

theorem kept_of_apply (h : t.apply m = .ok t') :
    (form.slotOf m ≠ some .offset → t'.offset = t.offset) ∧
      (form.slotOf m ≠ some .rounding → t'.round = t.round) ∧
      (form.slotOf m ≠ some .format → t'.format = t.format) := by
  rcases apply_eq_ok.1 h with ⟨sign, value, n, rfl, rfl | rfl, -, -, rfl⟩ |
    ⟨value, r, rfl, -, -, rfl⟩ | ⟨value, rfl, -, rfl⟩ <;> simp [Form.slotOf, form, slot?]

theorem isLawful_form : form.IsLawful where
  adds {s s' m} h := by
    rcases apply_eq_ok.1 h with ⟨sign, value, n, rfl, hsign, hs, hn, rfl⟩ |
      ⟨value, r, rfl, hs, hr, rfl⟩ | ⟨value, rfl, hs, rfl⟩
    · have hpart : empty.apply (sign :: value) = .ok { empty with offset := some n } :=
        apply_eq_ok.2 (Or.inl ⟨sign, value, n, rfl, hsign, rfl, hn, rfl⟩)
      have hslot : form.slotOf (sign :: value) = some .offset := by
        rcases hsign with rfl | rfl <;> rfl
      exact ⟨⟨.offset, hslot⟩, _, hpart, by simp [form, empty, hs]⟩
    · have hpart : empty.apply ('~' :: value) = .ok { empty with round := some r } :=
        apply_eq_ok.2 (Or.inr (Or.inl ⟨value, r, rfl, rfl, hr, rfl⟩))
      exact ⟨⟨.rounding, rfl⟩, _, hpart, by simp [form, empty, hs]⟩
    · have hpart : empty.apply ('=' :: value) =
          .ok { empty with format := some (namedPattern (String.ofList value)) } :=
        apply_eq_ok.2 (Or.inr (Or.inr ⟨value, rfl, rfl, rfl⟩))
      exact ⟨⟨.format, rfl⟩, _, hpart, by simp [form, empty, hs]⟩
  closes {s s' m n} h hsame := by
    have hfilled := filled_of_apply h
    obtain ⟨k, hm, hn⟩ := hsame
    obtain ⟨c, value, rfl, hc⟩ := Form.slotOf_eq_some.1 hn
    rcases slot?_eq_some.1 hc with ⟨rfl | rfl, rfl⟩ | ⟨rfl, rfl⟩ | ⟨rfl, rfl⟩
    · simp [form, apply, hfilled.1 hm, Modifier.identifier]
    · simp [form, apply, hfilled.1 hm, Modifier.identifier]
    · simp [form, apply, hfilled.2.1 hm, Modifier.identifier]
    · simp [form, apply, hfilled.2.2 hm, Modifier.identifier]
  keeps {s s' m n f} h hne := by
    have hkept := kept_of_apply h
    cases hn : form.slotOf n with
    | none => simp only [form, apply_unknown hn]
    | some k =>
      have hm : form.slotOf m ≠ some k := fun hm => hne ⟨k, hm, hn⟩
      obtain ⟨c, value, rfl, hc⟩ := Form.slotOf_eq_some.1 hn
      rcases slot?_eq_some.1 hc with ⟨rfl | rfl, rfl⟩ | ⟨rfl, rfl⟩ | ⟨rfl, rfl⟩
      · cases hs : s.offset <;> cases hv : shiftOf ('+' :: value) <;>
          simp [form, apply, hkept.1 hm, hs, hv]
      · cases hs : s.offset <;> cases hv : shiftOf ('-' :: value) <;>
          simp [form, apply, hkept.1 hm, hs, hv]
      · cases hs : s.round <;> cases hv : Rounding.read value <;>
          simp [form, apply, hkept.2.1 hm, hs, hv]
      · cases hs : s.format <;> simp [form, apply, hkept.2.2 hm, hs]
  union_comm {m n a b} s hm hn hne := by
    have ha := kept_of_apply hm
    have hb := kept_of_apply hn
    have hslot := Form.ne_or_ne hne
    simp only [form, mk.injEq]
    exact ⟨Slot.or_swap _ ((hslot .offset).imp ha.1 hb.1),
      Slot.or_swap _ ((hslot .rounding).imp ha.2.1 hb.2.1),
      Slot.or_swap _ ((hslot .format).imp ha.2.2 hb.2.2)⟩

end ClockTime

namespace Placeholder

inductive Kind
  | directory
  | git
  | input
  | time

namespace Kind

def Draft : Kind → Type
  | directory => DirectoryName
  | git => Option GitReference
  | input => InputChoice
  | time => ClockTime

def form : (k : Kind) → Form k.Draft
  | directory => DirectoryName.form
  | git => GitReference.form
  | input => InputChoice.form
  | time => ClockTime.form

def letter : Kind → Char
  | directory => 'd'
  | git => 'g'
  | input => 'i'
  | time => 't'

/-- A reference has to be named; everything else has values that hold when nothing is set. -/
def complete : (k : Kind) → k.Draft → Except Fault Placeholder
  | directory, d => .ok (.directory d)
  | git, some r => .ok (.git r)
  | git, none => .error .referenceTypeMissing
  | input, i => .ok (.input i)
  | time, t => .ok (.time t)

theorem isLawful_form (k : Kind) : k.form.IsLawful := by
  cases k with
  | directory => exact DirectoryName.isLawful_form
  | git => exact GitReference.isLawful_form
  | input => exact InputChoice.isLawful_form
  | time => exact ClockTime.isLawful_form

theorem read_letter (k : Kind) (text : List Char) :
    read (k.letter :: text) =
      (modifiers text).foldlM k.form.apply k.form.empty >>= k.complete := by
  cases k with
  | directory => exact (bind_pure_comp Placeholder.directory _).symm
  | git =>
    refine congrArg ((modifiers text).foldlM GitReference.apply none >>= ·) (funext fun r => ?_)
    cases r <;> rfl
  | input => exact (bind_pure_comp Placeholder.input _).symm
  | time => exact (bind_pure_comp Placeholder.time _).symm

theorem complete_eq_ok (k : Kind) {ms : List (List Char)} {d : k.Draft}
    (hms : ms.foldlM k.form.apply k.form.empty = .ok d) :
    (∃ p, k.complete d = .ok p) ↔ (k = .git → ms.length = 1) := by
  cases k with
  | directory => simp [complete]
  | input => simp [complete]
  | time => simp [complete]
  | git =>
    have hlawful := isLawful_form .git
    rcases ms with _ | ⟨m, _ | ⟨n, ms⟩⟩
    · obtain rfl := Except.ok.inj hms
      simp [complete, form, GitReference.form]
    · rw [List.foldlM_cons, bind_eq_ok] at hms
      obtain ⟨r, hr, hms⟩ := hms
      obtain rfl := Except.ok.inj hms
      obtain ⟨value, x, -, -, -, rfl⟩ := GitReference.apply_eq_ok.1 hr
      simp [complete]
    · have hslot : ∀ o ∈ m :: n :: ms, GitReference.form.slotOf o = some .reference := by
        intro o ho
        obtain ⟨part, hpart⟩ := (hlawful.exists_foldlM.1 ⟨d, hms⟩).1 o ho
        exact GitReference.slotOf_of_apply hpart
      have hsame : GitReference.form.SameSlot m n :=
        ⟨_, hslot m (by simp), hslot n (by simp)⟩
      have hne := hlawful.pairwise_of_foldlM hms
      exact absurd hsame ((List.pairwise_cons.1 hne).1 n (by simp))

/-- The modifiers of a placeholder are merged without regard to their order. -/
theorem read_merges_slots (k : Kind) (ms : List (List Char)) :
    ((∃ d, ms.foldlM k.form.apply k.form.empty = .ok d) ↔
      (∀ m ∈ ms, ∃ part, k.form.Gives m part) ∧ ms.Pairwise fun m n => ¬ k.form.SameSlot m n) ∧
    (∀ d, ms.foldlM k.form.apply k.form.empty = .ok d →
      (∃ parts, List.Forall₂ k.form.Gives ms parts ∧ d = parts.foldl k.form.union k.form.empty) ∧
      ∀ ns, ms.Perm ns → ns.foldlM k.form.apply k.form.empty = .ok d) ∧
    (∀ f, ms.foldlM k.form.apply k.form.empty = .error f ↔
      ∃ i, k.form.FaultAt ms i f ∧ ∀ j < i, ∀ g, ¬ k.form.FaultAt ms j g) ∧
    ∀ text, modifiers text = ms →
      read (k.letter :: text) = ms.foldlM k.form.apply k.form.empty >>= k.complete ∧
      ((∃ p, read (k.letter :: text) = .ok p) ↔
        (∃ d, ms.foldlM k.form.apply k.form.empty = .ok d) ∧ (k = .git → ms.length = 1)) := by
  have hlawful := isLawful_form k
  refine ⟨hlawful.exists_foldlM, fun d hd => ?_, fun f => hlawful.foldlM_eq_error, ?_⟩
  · exact ⟨hlawful.foldlM_eq_foldl hd, fun ns hperm => hlawful.foldlM_perm hperm hd⟩
  · intro text htext
    subst htext
    rw [read_letter]
    refine ⟨rfl, ?_⟩
    constructor
    · intro hp
      obtain ⟨p, hp⟩ := hp
      obtain ⟨d, hd, hp⟩ := bind_eq_ok.1 hp
      exact ⟨⟨d, hd⟩, (complete_eq_ok k hd).1 ⟨p, hp⟩⟩
    · intro hd
      obtain ⟨⟨d, hd⟩, hone⟩ := hd
      obtain ⟨p, hp⟩ := (complete_eq_ok k hd).2 hone
      exact ⟨p, bind_eq_ok.2 ⟨d, hd, hp⟩⟩

end Kind
end Placeholder
end StatusLine
