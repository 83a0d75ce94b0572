import Mathlib.Data.List.Forall2
import Mathlib.Data.List.Induction
import StatusLine.Proofs.ModifierSteps

/-!
# Modifiers fill slots

A form says how modifiers are put together and which slot each identifier fills. Four laws of a
single step carry the theory of whole lists: a list is accepted when each modifier is accepted by
itself and no two fill the same slot; what is read is the union of what each gives by itself, so the
order does not matter. Otherwise the leftmost modifier at fault is reported, and a slot that is
filled already goes before anything else.
-/
namespace StatusLine

inductive Slot
  | offset
  | format
  | casing
  | joiner
  | reference
  | values
  | rounding
  deriving DecidableEq

theorem Slot.or_swap {α : Type} (s : Option α) {a b : Option α} (h : a = none ∨ b = none) :
    (s.or a).or b = (s.or b).or a := by
  rcases h with rfl | rfl <;> simp

/-- How the modifiers of one kind of placeholder are put together. -/
structure Form (σ : Type) where
  empty : σ
  apply : σ → List Char → Except Fault σ
  union : σ → σ → σ
  slot? : Char → Option Slot
  /-- What is wrong with the second modifier when the first one has filled its slot. -/
  reuse : List Char → List Char → Fault

namespace Form
variable {σ : Type} {F : Form σ}

def slotOf (F : Form σ) (m : List Char) : Option Slot := m.head?.bind F.slot?

def SameSlot (F : Form σ) (m n : List Char) : Prop :=
  ∃ k, F.slotOf m = some k ∧ F.slotOf n = some k

def Gives (F : Form σ) (m : List Char) (part : σ) : Prop := F.apply F.empty m = .ok part

def FaultAfter (F : Form σ) (before : List (List Char)) (n : List Char) (f : Fault) : Prop :=
  (∃ m ∈ before, F.SameSlot m n ∧ f = F.reuse m n) ∨
    (∀ m ∈ before, ¬ F.SameSlot m n) ∧ F.apply F.empty n = .error f

def FaultAt (F : Form σ) (ms : List (List Char)) (i : Nat) (f : Fault) : Prop :=
  ∃ n, ms[i]? = some n ∧ F.FaultAfter (ms.take i) n f

/-- A modifier that is accepted adds what it gives by itself and closes its slot, and the faults of
modifiers for other slots stay what they are. -/
structure IsLawful (F : Form σ) : Prop where
  adds : ∀ {s s' m}, F.apply s m = .ok s' →
    (∃ k, F.slotOf m = some k) ∧ ∃ part, F.Gives m part ∧ s' = F.union s part
  closes : ∀ {s s' m n}, F.apply s m = .ok s' → F.SameSlot m n →
    F.apply s' n = .error (F.reuse m n)
  keeps : ∀ {s s' m n f}, F.apply s m = .ok s' → ¬ F.SameSlot m n →
    (F.apply s' n = .error f ↔ F.apply s n = .error f)
  union_comm : ∀ {m n a b} (s), F.Gives m a → F.Gives n b → ¬ F.SameSlot m n →
    F.union (F.union s a) b = F.union (F.union s b) a

theorem slotOf_eq_some {m : List Char} {k : Slot} :
    F.slotOf m = some k ↔ ∃ c value, m = c :: value ∧ F.slot? c = some k := by
  cases m <;> simp [slotOf]

theorem ne_or_ne {m n : List Char} (h : ¬ F.SameSlot m n) (k : Slot) :
    F.slotOf m ≠ some k ∨ F.slotOf n ≠ some k := by
  by_contra hk
  rw [not_or, not_not, not_not] at hk
  exact h ⟨k, hk⟩

theorem slotOf_eq_none {k : Slot} (hall : ∀ {c k'}, F.slot? c = some k' → k' = k)
    {m n : List Char} (hm : F.slotOf m = some k) (hne : ¬ F.SameSlot m n) : F.slotOf n = none := by
  cases hn : F.slotOf n with
  | none => rfl
  | some k' =>
    obtain ⟨c, value, rfl, hc⟩ := slotOf_eq_some.1 hn
    rw [hall hc] at hn
    exact absurd ⟨k, hm, hn⟩ hne

theorem SameSlot.symm {m n : List Char} (h : F.SameSlot m n) : F.SameSlot n m := by
  obtain ⟨k, hm, hn⟩ := h
  exact ⟨k, hn, hm⟩

theorem SameSlot.trans {m n o : List Char} (h : F.SameSlot m n) (h' : F.SameSlot n o) :
    F.SameSlot m o := by
  obtain ⟨k, hm, hn⟩ := h
  obtain ⟨k', hn', ho⟩ := h'
  obtain rfl : k = k' := Option.some.inj (hn.symm.trans hn')
  exact ⟨k, hm, ho⟩

def Taken (F : Form σ) (m : List Char) (s : σ) : Prop :=
  ∀ n, F.SameSlot m n → F.apply s n = .error (F.reuse m n)

theorem Taken.not_sameSlot {s s' : σ} {m n : List Char} (ht : F.Taken m s)
    (hn : F.apply s n = .ok s') : ¬ F.SameSlot m n := by
  intro hs
  rw [ht n hs] at hn
  simp at hn

theorem faultAt_take {ms : List (List Char)} {i j : Nat} {g : Fault} (hji : j < i) :
    F.FaultAt (ms.take i) j g ↔ F.FaultAt ms j g := by
  simp only [FaultAt, List.getElem?_take_of_lt hji, List.take_take,
    Nat.min_eq_left (Nat.le_of_lt hji)]

namespace IsLawful
variable (h : F.IsLawful)
include h

theorem taken_step {s s' : σ} {m n : List Char} (ht : F.Taken m s) (hn : F.apply s n = .ok s') :
    F.Taken m s' := by
  intro o ho
  have hne : ¬ F.SameSlot n o := fun hs => ht.not_sameSlot hn (ho.trans hs.symm)
  exact (h.keeps hn hne).2 (ht o ho)

theorem taken_of_mem {ms : List (List Char)} {s s' : σ} (hms : ms.foldlM F.apply s = .ok s')
    {m : List Char} (hm : m ∈ ms) : F.Taken m s' := by
  induction ms generalizing s with
  | nil => simp at hm
  | cons o ms ih =>
    rw [List.foldlM_cons, bind_eq_ok] at hms
    obtain ⟨t, ht, hms⟩ := hms
    rcases List.mem_cons.1 hm with rfl | hm
    · have htaken : F.Taken m t := fun n hs => h.closes ht hs
      exact foldlM_invariant (fun n _ _ _ hu hn => h.taken_step hu hn) htaken hms
    · exact ih hms hm

theorem keeps_foldlM {ms : List (List Char)} {s s' : σ} (hms : ms.foldlM F.apply s = .ok s')
    {n : List Char} (hn : ∀ m ∈ ms, ¬ F.SameSlot m n) {f : Fault} :
    F.apply s' n = .error f ↔ F.apply s n = .error f := by
  induction ms generalizing s with
  | nil =>
    obtain rfl := Except.ok.inj hms
    rfl
  | cons m ms ih =>
    rw [List.foldlM_cons, bind_eq_ok] at hms
    obtain ⟨t, ht, hms⟩ := hms
    rw [ih hms fun o ho => hn o (List.mem_cons_of_mem m ho), h.keeps ht (hn m List.mem_cons_self)]

theorem apply_eq_error {before : List (List Char)} {s : σ}
    (hs : before.foldlM F.apply F.empty = .ok s) {n : List Char} {f : Fault} :
    F.apply s n = .error f ↔ F.FaultAfter before n f := by
  by_cases hsame : ∃ m ∈ before, F.SameSlot m n
  · obtain ⟨m, hm, hmn⟩ := hsame
    have hreuse := h.taken_of_mem hs hm n hmn
    constructor
    · intro hf
      rw [hreuse] at hf
      exact Or.inl ⟨m, hm, hmn, (Except.error.inj hf).symm⟩
    · intro hf
      rcases hf with ⟨o, ho, hon, rfl⟩ | ⟨hnone, -⟩
      · exact h.taken_of_mem hs ho n hon
      · exact absurd hmn (hnone m hm)
  · have hnone : ∀ m ∈ before, ¬ F.SameSlot m n := fun m hm hmn => hsame ⟨m, hm, hmn⟩
    rw [h.keeps_foldlM hs hnone]
    constructor
    · exact fun hf => Or.inr ⟨hnone, hf⟩
    · intro hf
      rcases hf with ⟨m, hm, hmn, -⟩ | ⟨-, hf⟩
      · exact absurd hmn (hnone m hm)
      · exact hf

theorem pairwise_of_foldlM {ms : List (List Char)} {s s' : σ}
    (hms : ms.foldlM F.apply s = .ok s') : ms.Pairwise fun m n => ¬ F.SameSlot m n := by
  -- From the right: the last modifier is accepted after all the others.
  induction ms using List.reverseRecOn generalizing s' with
  | nil => exact .nil
  | append_singleton ms n ih =>
    rw [List.foldlM_append, bind_eq_ok] at hms
    obtain ⟨t, ht, hlast⟩ := hms
    rw [List.foldlM_cons, bind_eq_ok] at hlast
    obtain ⟨u, hn, -⟩ := hlast
    refine List.pairwise_append.2 ⟨ih ht, List.pairwise_singleton _ n, ?_⟩
    intro m hm o ho
    obtain rfl := List.mem_singleton.1 ho
    exact (h.taken_of_mem ht hm).not_sameSlot hn

theorem foldlM_eq_foldl {ms : List (List Char)} {s s' : σ} (hms : ms.foldlM F.apply s = .ok s') :
    ∃ parts, List.Forall₂ F.Gives ms parts ∧ s' = parts.foldl F.union s := by
  induction ms generalizing s with
  | nil => exact ⟨[], .nil, (Except.ok.inj hms).symm⟩
  | cons m ms ih =>
    rw [List.foldlM_cons, bind_eq_ok] at hms
    obtain ⟨t, ht, hms⟩ := hms
    obtain ⟨-, part, hpart, rfl⟩ := h.adds ht
    obtain ⟨parts, hparts, rfl⟩ := ih hms
    exact ⟨part :: parts, .cons hpart hparts, rfl⟩

theorem not_faultAt {ms : List (List Char)} {s : σ} (hms : ms.foldlM F.apply F.empty = .ok s)
    (i : Nat) (f : Fault) : ¬ F.FaultAt ms i f := by
  intro hf
  obtain ⟨n, hn, hf⟩ := hf
  cases htake : (ms.take i).foldlM F.apply F.empty with
  | error g =>
    have hsplit := List.take_append_drop i ms
    rw [← hsplit, List.foldlM_append, htake] at hms
    simp at hms
  | ok t =>
    have herror := foldlM_eq_error.2 ⟨i, n, t, hn, htake, (h.apply_eq_error htake).2 hf⟩
    simp [hms] at herror

theorem exists_faultAt {ms : List (List Char)} {f : Fault}
    (hms : ms.foldlM F.apply F.empty = .error f) :
    ∃ i < ms.length, F.FaultAt ms i f ∧ ∀ j < i, ∀ g, ¬ F.FaultAt ms j g := by
  obtain ⟨i, n, s, hn, hs, hstep⟩ := StatusLine.foldlM_eq_error.1 hms
  refine ⟨i, (List.getElem?_eq_some_iff.1 hn).1, ⟨n, hn, (h.apply_eq_error hs).1 hstep⟩, ?_⟩
  intro j hji g hg
  exact h.not_faultAt hs j g ((faultAt_take hji).2 hg)

/-- The leftmost modifier at fault is reported. -/
theorem foldlM_eq_error {ms : List (List Char)} {f : Fault} :
    ms.foldlM F.apply F.empty = .error f ↔
      ∃ i, F.FaultAt ms i f ∧ ∀ j < i, ∀ g, ¬ F.FaultAt ms j g := by
  constructor
  · intro hms
    obtain ⟨i, -, hi⟩ := h.exists_faultAt hms
    exact ⟨i, hi⟩
  · intro hi
    obtain ⟨i, ⟨n, hn, hf⟩, hleast⟩ := hi
    cases htake : (ms.take i).foldlM F.apply F.empty with
    | error g =>
      obtain ⟨j, hj, hg, -⟩ := h.exists_faultAt htake
      have hji : j < i := Nat.lt_of_lt_of_le hj (List.length_take_le i ms)
      exact absurd ((faultAt_take hji).1 hg) (hleast j hji g)
    | ok s =>
      exact StatusLine.foldlM_eq_error.2 ⟨i, n, s, hn, htake, (h.apply_eq_error htake).2 hf⟩

theorem exists_foldlM {ms : List (List Char)} :
    (∃ s, ms.foldlM F.apply F.empty = .ok s) ↔
      (∀ m ∈ ms, ∃ part, F.Gives m part) ∧ ms.Pairwise fun m n => ¬ F.SameSlot m n := by
  -- From right to left a fault would have a leftmost place, and neither reason for it holds there.
  constructor
  · intro hms
    obtain ⟨s, hms⟩ := hms
    obtain ⟨parts, hparts, -⟩ := h.foldlM_eq_foldl hms
    exact ⟨exists_forall₂.1 ⟨parts, hparts⟩, h.pairwise_of_foldlM hms⟩
  · intro hms
    obtain ⟨halone, hpairwise⟩ := hms
    cases hfold : ms.foldlM F.apply F.empty with
    | ok s => exact ⟨s, rfl⟩
    | error f =>
      obtain ⟨i, ⟨n, hn, hf⟩, -⟩ := h.foldlM_eq_error.1 hfold
      rcases hf with ⟨m, hm, hsame, -⟩ | ⟨-, hf⟩
      · have hdrop : n ∈ ms.drop i := List.mem_of_head? (by rw [List.head?_drop, hn])
        rw [← List.take_append_drop i ms, List.pairwise_append] at hpairwise
        exact absurd hsame (hpairwise.2.2 m hm n hdrop)
      · obtain ⟨part, hpart⟩ := halone n (List.mem_of_getElem? hn)
        rw [hpart] at hf
        simp at hf

theorem apply_swap {s t u : σ} {m n : List Char} (hm : F.apply s m = .ok t)
    (hn : F.apply t n = .ok u) : ∃ t', F.apply s n = .ok t' ∧ F.apply t' m = .ok u := by
  have hne : ¬ F.SameSlot m n := by
    have htaken : F.Taken m t := fun o ho => h.closes hm ho
    exact htaken.not_sameSlot hn
  cases hs : F.apply s n with
  | error f =>
    rw [(h.keeps hm hne).2 hs] at hn
    simp at hn
  | ok t' =>
    cases ht' : F.apply t' m with
    | error f =>
      rw [h.keeps hs fun hsame => hne hsame.symm, hm] at ht'
      simp at ht'
    | ok u' =>
      obtain ⟨-, a, ha, rfl⟩ := h.adds hm
      obtain ⟨-, b, hb, rfl⟩ := h.adds hn
      obtain ⟨-, b', hb', rfl⟩ := h.adds hs
      obtain ⟨-, a', ha', rfl⟩ := h.adds ht'
      obtain rfl : a = a' := Except.ok.inj (ha.symm.trans ha')
      obtain rfl : b = b' := Except.ok.inj (hb.symm.trans hb')
      exact ⟨_, rfl, by rw [ht', h.union_comm s ha hb hne]⟩

theorem foldlM_perm {ms ns : List (List Char)} (hperm : ms.Perm ns) {s t : σ}
    (hms : ms.foldlM F.apply s = .ok t) : ns.foldlM F.apply s = .ok t := by
  induction hperm generalizing s with
  | nil => exact hms
  | cons m hperm ih =>
    rw [List.foldlM_cons, bind_eq_ok] at hms ⊢
    obtain ⟨u, hu, hms⟩ := hms
    exact ⟨u, hu, ih hms⟩
  | swap m n ms =>
    simp only [List.foldlM_cons, bind_eq_ok] at hms ⊢
    obtain ⟨u, hu, v, hv, hms⟩ := hms
    obtain ⟨u', hu', hv'⟩ := h.apply_swap hu hv
    exact ⟨u', hu', v, hv', hms⟩
  | trans hperm hperm' ih ih' => exact ih' (ih hms)

end IsLawful
end Form
end StatusLine
