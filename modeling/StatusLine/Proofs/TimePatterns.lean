import Mathlib.Data.List.Nodup
import StatusLine.Calendar.TimeOfDay
import StatusLine.Proofs.Numerals

/-!
# Time patterns

A time is written by replacing one token after the other in the text so far, and the result is that
of replacing all tokens at once in the pattern itself. A token has brackets at its ends and none
inside, so two occurrences never overlap. A value has no brackets, and a character that no token
has, so nothing that reaches into a value is a token. Hence a replacement neither adds nor takes
away an occurrence of another token, and their order does not matter.
-/
namespace StatusLine
namespace Pattern

def FirstAt (token text : List Char) (i : Nat) : Prop :=
  token <+: text.drop i ∧ ∀ j < i, ¬ token <+: text.drop j

instance (token text : List Char) (i : Nat) : Decidable (FirstAt token text i) := by
  unfold FirstAt; infer_instance

/-- What one character of a text comes to: the value of a token, where the token has its first
occurrence; nothing, inside such an occurrence; itself, everywhere else. -/
def shownAt (subs : List (List Char × List Char)) (text : List Char) (i : Nat) (c : Char) :
    List Char :=
  match subs.find? fun s => FirstAt s.1 text i with
  | some s => s.2
  | none => if ∃ s ∈ subs, ∃ j < i, FirstAt s.1 text j ∧ i < j + s.1.length then [] else [c]

def replaceAtOnce (subs : List (List Char × List Char)) (text : List Char) : List Char :=
  text.zipIdx.flatMap fun c => shownAt subs text c.2 c.1

def replaceInTurn (subs : List (List Char × List Char)) (text : List Char) : List Char :=
  subs.foldl (fun text s => TimeOfDay.replaceFirst s.1 s.2 text) text

/-! ## Tokens and values -/

structure IsToken (token : List Char) : Prop where
  opens : token.head? = some '['
  opensOnce : '[' ∉ token.tail
  closes : token.getLast? = some ']'
  closesOnce : ']' ∉ token.dropLast

/-- A text that can be put in without touching the tokens around it. -/
structure IsNeutral (tokens : List (List Char)) (value : List Char) : Prop where
  noOpening : '[' ∉ value
  noClosing : ']' ∉ value
  foreign : ∃ c ∈ value, ∀ token ∈ tokens, c ∉ token

theorem getElem?_occurrence {token text : List Char} {i k : Nat} (h : token <+: text.drop i)
    (hk : k < token.length) : text[i + k]? = token[k]? := by
  have hchar := List.prefix_iff_getElem?.1 h k hk
  rw [List.getElem?_drop] at hchar
  rw [hchar, List.getElem?_eq_getElem hk]

namespace IsToken
variable {a b text : List Char}

theorem exists_cons (h : IsToken a) : ∃ rest, a = '[' :: rest ∧ '[' ∉ rest := by
  obtain ⟨rest, rfl⟩ := List.head?_eq_some_iff.1 h.opens
  exact ⟨rest, rfl, h.opensOnce⟩

theorem length_pos (h : IsToken a) : 0 < a.length := by
  obtain ⟨rest, rfl, -⟩ := h.exists_cons
  exact Nat.zero_lt_succ _

theorem getElem?_opening (h : IsToken a) {k : Nat} : a[k]? = some '[' ↔ k = 0 := by
  obtain ⟨rest, rfl, hrest⟩ := h.exists_cons
  cases k with
  | zero => simp
  | succ k =>
    rw [List.getElem?_cons_succ]
    constructor
    · exact fun hk => absurd (List.mem_of_getElem? hk) hrest
    · exact fun hk => absurd hk (Nat.succ_ne_zero k)

theorem getElem?_closing (h : IsToken a) {k : Nat} : a[k]? = some ']' ↔ k + 1 = a.length := by
  obtain ⟨init, rfl⟩ := List.getLast?_eq_some_iff.1 h.closes
  have hinit : ']' ∉ init := by simpa using h.closesOnce
  constructor
  · intro hk
    have hbound := (List.getElem?_eq_some_iff.1 hk).1
    by_cases hlt : k < init.length
    · rw [List.getElem?_append_left hlt] at hk
      exact absurd (List.mem_of_getElem? hk) hinit
    · simp only [List.length_append, List.length_singleton] at hbound ⊢
      omega
  · intro hk
    obtain rfl : k = init.length := by simpa using hk
    simp

theorem length_le_of_prefixes (ha : IsToken a) (hb : IsToken b) (hat : a <+: text)
    (hbt : b <+: text) : b.length ≤ a.length := by
  by_contra hlt
  have hpos := ha.length_pos
  have hend : a[a.length - 1]? = some ']' := ha.getElem?_closing.2 (by omega)
  rw [← getElem?_occurrence (i := 0) hat (by omega),
    getElem?_occurrence (i := 0) hbt (by omega), hb.getElem?_closing] at hend
  omega

theorem eq_of_prefixes (ha : IsToken a) (hb : IsToken b) (hat : a <+: text) (hbt : b <+: text) :
    a = b := by
  have hlength : a.length = b.length :=
    Nat.le_antisymm (length_le_of_prefixes hb ha hbt hat) (length_le_of_prefixes ha hb hat hbt)
  exact (List.prefix_of_prefix_length_le hat hbt (Nat.le_of_eq hlength)).eq_of_length hlength

theorem add_length_le (ha : IsToken a) (hb : IsToken b) {i j : Nat} (hat : a <+: text.drop i)
    (hbt : b <+: text.drop j) (hij : i < j) : i + a.length ≤ j := by
  by_contra hlt
  have hstart : b[0]? = some '[' := hb.getElem?_opening.2 rfl
  rw [← getElem?_occurrence hbt hb.length_pos, show j + 0 = i + (j - i) by omega,
    getElem?_occurrence hat (by omega), ha.getElem?_opening] at hstart
  omega

/-- An occurrence in a text that a neutral value was put into lies before the value or after it. -/
theorem apart_of_isNeutral {tokens : List (List Char)} {value : List Char} (ha : IsToken a)
    (hmem : a ∈ tokens) (hv : IsNeutral tokens value) {before after : List Char} {i : Nat}
    (h : a <+: (before ++ value ++ after).drop i) :
    i + a.length ≤ before.length ∨ before.length + value.length ≤ i := by
  by_contra hover
  have hpos := ha.length_pos
  have hinside : ∀ k, i ≤ before.length + k → before.length + k < i + a.length →
      k < value.length → a[before.length + k - i]? = value[k]? := by
    intro k hle hlt hk
    rw [← getElem?_occurrence h (by omega), show i + (before.length + k - i) = before.length + k by
      omega, List.append_assoc, List.getElem?_append_right (by omega), Nat.add_sub_cancel_left,
      List.getElem?_append_left hk]
  have hfirst : i < before.length := by
    by_contra hle
    have hchar := hinside (i - before.length) (by omega) (by omega) (by omega)
    rw [show before.length + (i - before.length) - i = 0 by omega,
      ha.getElem?_opening.2 rfl] at hchar
    exact hv.noOpening (List.mem_of_getElem? hchar.symm)
  have hlast : before.length + value.length < i + a.length := by
    by_contra hle
    have hchar := hinside (i + a.length - 1 - before.length) (by omega) (by omega) (by omega)
    rw [ha.getElem?_closing.2 (by omega)] at hchar
    exact hv.noClosing (List.mem_of_getElem? hchar.symm)
  obtain ⟨c, hc, hforeign⟩ := hv.foreign
  obtain ⟨k, hk, rfl⟩ := List.mem_iff_getElem.1 hc
  have hchar := hinside k (by omega) (by omega) hk
  rw [List.getElem?_eq_getElem hk] at hchar
  exact hforeign a hmem (List.mem_of_getElem? hchar)

end IsToken

structure AreIndependent (subs : List (List Char × List Char)) : Prop where
  isToken : ∀ s ∈ subs, IsToken s.1
  isNeutral : ∀ s ∈ subs, IsNeutral (subs.map Prod.fst) s.2
  nodup : (subs.map Prod.fst).Nodup

namespace AreIndependent
variable {s s' : List Char × List Char} {subs subs' : List (List Char × List Char)}

theorem mono (h : AreIndependent subs) (hsub : subs' ⊆ subs)
    (hnodup : (subs'.map Prod.fst).Nodup) : AreIndependent subs' where
  isToken s hs := h.isToken s (hsub hs)
  isNeutral s hs := by
    obtain ⟨hopening, hclosing, c, hc, hforeign⟩ := h.isNeutral s (hsub hs)
    exact ⟨hopening, hclosing, c, hc, fun token ht => hforeign token (List.map_subset _ hsub ht)⟩
  nodup := hnodup

theorem of_perm (h : AreIndependent subs) (hperm : subs'.Perm subs) : AreIndependent subs' :=
  h.mono hperm.subset ((hperm.map Prod.fst).nodup_iff.2 h.nodup)

theorem filter (h : AreIndependent subs) (p : List Char × List Char → Bool) :
    AreIndependent (subs.filter p) :=
  h.mono (List.filter_subset_self subs) (h.nodup.sublist (List.filter_sublist.map Prod.fst))

theorem tail (h : AreIndependent (s :: subs)) : AreIndependent subs :=
  h.mono (List.subset_cons_self s subs) (List.nodup_cons.1 h.nodup).2

theorem eq_of_token_eq (h : AreIndependent subs) (hs : s ∈ subs) (hs' : s' ∈ subs)
    (heq : s.1 = s'.1) : s = s' := List.inj_on_of_nodup_map h.nodup hs hs' heq

theorem find?_eq_some (h : AreIndependent subs) (text : List Char)
    {p : List Char × List Char → Bool} (hp : ∀ s, p s = true → s.1 <+: text) :
    subs.find? p = some s ↔ s ∈ subs ∧ p s = true := by
  constructor
  · exact fun hfind => ⟨List.mem_of_find?_eq_some hfind, List.find?_some hfind⟩
  · intro hs
    obtain ⟨hmem, hps⟩ := hs
    cases hfind : subs.find? p with
    | none => exact absurd hps (by simpa using List.find?_eq_none.1 hfind s hmem)
    | some s' =>
      have hmem' := List.mem_of_find?_eq_some hfind
      have htoken := (h.isToken s' hmem').eq_of_prefixes (h.isToken s hmem)
        (hp s' (List.find?_some hfind)) (hp s hps)
      rw [h.eq_of_token_eq hmem' hmem htoken]

end AreIndependent

/-! ## One pass -/

/-- One pass over a text by the tokens that are still to come: each is replaced where it is met. -/
def pass (subs : List (List Char × List Char)) : List Char → List Char
  | [] => []
  | c :: cs =>
    match subs.find? fun s => s.1.isPrefixOf (c :: cs) with
    | some s => s.2 ++ pass (subs.filter fun s' => s'.1 ≠ s.1) (cs.drop (s.1.length - 1))
    | none => c :: pass subs cs
termination_by text => text.length

variable {s s' : List Char × List Char} {subs : List (List Char × List Char)} {text : List Char}

theorem pass_token (h : AreIndependent subs) (hs : s ∈ subs) (rest : List Char) :
    pass subs (s.1 ++ rest) = s.2 ++ pass (subs.filter fun s' => s'.1 ≠ s.1) rest := by
  obtain ⟨tail, htoken, -⟩ := (h.isToken s hs).exists_cons
  have hfind : subs.find? (fun s' => s'.1.isPrefixOf (s.1 ++ rest)) = some s :=
    (h.find?_eq_some (s.1 ++ rest) (by simp)).2 ⟨hs, by simp⟩
  rw [htoken, List.cons_append] at hfind ⊢
  rw [pass, hfind]
  simp [htoken]

theorem pass_cons (h : ∀ s ∈ subs, ¬ s.1 <+: c :: cs) :
    pass subs (c :: cs) = c :: pass subs cs := by
  have hfind : subs.find? (fun s => s.1.isPrefixOf (c :: cs)) = none := by simpa using h
  rw [pass, hfind]

theorem pass_append (h : AreIndependent subs) {value : List Char} (hv : '[' ∉ value)
    (rest : List Char) : pass subs (value ++ rest) = value ++ pass subs rest := by
  induction value with
  | nil => rfl
  | cons c value ih =>
    obtain ⟨hc, hv⟩ := List.ne_and_not_mem_of_not_mem_cons hv
    rw [List.cons_append, pass_cons, ih hv, List.cons_append]
    intro s hs hpre
    obtain ⟨tail, htoken, -⟩ := (h.isToken s hs).exists_cons
    rw [htoken, List.cons_prefix_cons] at hpre
    exact hc hpre.1

/-! ## One replacement -/

section
open TimeOfDay
variable {token value : List Char} {c : Char} {cs : List Char}

theorem replaceFirst_token (h : IsToken token) (value rest : List Char) :
    replaceFirst token value (token ++ rest) = value ++ rest := by
  obtain ⟨tail, rfl, -⟩ := h.exists_cons
  simp [replaceFirst]

theorem replaceFirst_cons (h : ¬ token <+: c :: cs) :
    replaceFirst token value (c :: cs) = c :: replaceFirst token value cs := by
  rw [replaceFirst, if_neg (by simpa using h)]

theorem replaceFirst_append (h : IsToken token) {before : List Char} (hb : '[' ∉ before)
    (rest : List Char) :
    replaceFirst token value (before ++ rest) = before ++ replaceFirst token value rest := by
  induction before with
  | nil => rfl
  | cons c before ih =>
    obtain ⟨hc, hb⟩ := List.ne_and_not_mem_of_not_mem_cons hb
    obtain ⟨tail, rfl, -⟩ := h.exists_cons
    rw [List.cons_append, replaceFirst_cons, ih hb, List.cons_append]
    exact fun hpre => hc (List.cons_prefix_cons.1 hpre).1

theorem replaceFirst_append_token (h : IsToken token) {other : List Char} (ho : IsToken other)
    (hne : token ≠ other) (rest : List Char) :
    replaceFirst token value (other ++ rest) = other ++ replaceFirst token value rest := by
  have hpre : ¬ token <+: other ++ rest := fun htoken =>
    hne (h.eq_of_prefixes ho htoken (List.prefix_append other rest))
  obtain ⟨tail, rfl, htail⟩ := ho.exists_cons
  rw [List.cons_append] at hpre ⊢
  rw [replaceFirst_cons hpre, replaceFirst_append h htail, List.cons_append]

theorem replaceFirst_cases (token value text : List Char) :
    replaceFirst token value text = text ∨ ∃ before after, text = before ++ token ++ after ∧
      replaceFirst token value text = before ++ value ++ after := by
  induction text with
  | nil => exact Or.inl rfl
  | cons c cs ih =>
    by_cases h : token <+: c :: cs
    · obtain ⟨rest, hrest⟩ := h
      refine Or.inr ⟨[], rest, by simp [hrest], ?_⟩
      rw [replaceFirst, ← hrest, if_pos (by simp), List.drop_left]
      rfl
    · rw [replaceFirst_cons h]
      rcases ih with ih | ⟨before, after, hcs, ih⟩
      · exact Or.inl (congrArg _ ih)
      · exact Or.inr ⟨c :: before, after, by simp [hcs], by simp [ih]⟩

end

theorem prefix_of_prefix_replaceFirst {c : Char} {cs : List Char} (h : AreIndependent subs)
    (hs : s ∈ subs) (hs' : s' ∈ subs)
    (hpre : s'.1 <+: c :: TimeOfDay.replaceFirst s.1 s.2 cs) : s'.1 <+: c :: cs := by
  rcases replaceFirst_cases s.1 s.2 cs with heq | ⟨before, after, rfl, heq⟩
  · rwa [heq] at hpre
  · rw [heq] at hpre
    have hsplit : s'.1 <+: ((c :: before) ++ s.2 ++ after).drop 0 := by simpa using hpre
    have happart := (h.isToken s' hs').apart_of_isNeutral (List.mem_map_of_mem hs')
      (h.isNeutral s hs) hsplit
    have hlength : s'.1.length ≤ (c :: before).length := by
      simp only [List.length_cons] at happart ⊢
      omega
    have hstart : c :: before <+: c :: (before ++ s.2 ++ after) := by simp [List.append_assoc]
    have hbefore := List.prefix_of_prefix_length_le hpre hstart hlength
    exact hbefore.trans ⟨s.1 ++ after, by simp⟩

/-- To replace one token and pass over the result by the others is to pass by all of them. -/
theorem pass_replaceFirst {s : List Char × List Char} {subs : List (List Char × List Char)}
    (h : AreIndependent (s :: subs)) (text : List Char) :
    pass subs (TimeOfDay.replaceFirst s.1 s.2 text) = pass (s :: subs) text := by
  have hs : s ∈ s :: subs := List.mem_cons_self
  have hne : ∀ s' ∈ subs, s'.1 ≠ s.1 := by
    intro s' hs' heq
    exact (List.nodup_cons.1 h.nodup).1 (heq ▸ List.mem_map_of_mem hs')
  match text with
  | [] => simp [TimeOfDay.replaceFirst, pass]
  | c :: cs =>
    by_cases hfirst : s.1 <+: c :: cs
    · obtain ⟨rest, hrest⟩ := hfirst
      have hothers : (s :: subs).filter (fun s' => s'.1 ≠ s.1) = subs := by
        rw [List.filter_cons_of_neg (by simp), List.filter_eq_self]
        simpa using hne
      rw [← hrest, replaceFirst_token (h.isToken s hs), pass_token h hs, hothers,
        pass_append h.tail (h.isNeutral s hs).noOpening]
    · by_cases hother : ∃ s' ∈ subs, s'.1 <+: c :: cs
      · obtain ⟨s', hs', rest, hrest⟩ := hother
        have hmem : s' ∈ s :: subs := List.mem_cons_of_mem s hs'
        have hshorter : rest.length < (c :: cs).length := by
          rw [← hrest, List.length_append]
          exact Nat.lt_add_of_pos_left (h.isToken s' hmem).length_pos
        have hothers := h.filter fun other => other.1 ≠ s'.1
        rw [List.filter_cons_of_pos (by simpa using (hne s' hs').symm)] at hothers
        rw [← hrest, replaceFirst_append_token (h.isToken s hs) (h.isToken s' hmem)
          (hne s' hs').symm, pass_token h.tail hs', pass_token h hmem,
          List.filter_cons_of_pos (by simpa using (hne s' hs').symm),
          pass_replaceFirst hothers rest]
      · have hnone : ∀ s' ∈ s :: subs, ¬ s'.1 <+: c :: cs := by
          simpa [hfirst] using hother
        rw [replaceFirst_cons hfirst, pass_cons hnone, ← pass_replaceFirst h cs, pass_cons]
        intro s' hs' hpre
        have hmem : s' ∈ s :: subs := List.mem_cons_of_mem s hs'
        exact hnone s' hmem (prefix_of_prefix_replaceFirst h hs hmem hpre)
termination_by text.length
decreasing_by
  · exact hshorter
  · exact Nat.lt_succ_self cs.length

theorem pass_nil (text : List Char) : pass [] text = text := by
  induction text with
  | nil => rw [pass]
  | cons c cs ih => rw [pass_cons (by simp), ih]

theorem replaceInTurn_eq_pass (h : AreIndependent subs) (text : List Char) :
    replaceInTurn subs text = pass subs text := by
  induction subs generalizing text with
  | nil => exact (pass_nil text).symm
  | cons s subs ih =>
    rw [← pass_replaceFirst h, ← ih h.tail]
    rfl

/-! ## All at once -/

def coming (subs : List (List Char × List Char)) (text : List Char) (i : Nat) :
    List (List Char × List Char) :=
  subs.filter fun s => ∀ j < i, ¬ s.1 <+: text.drop j

/-- A place that no first occurrence goes across. -/
def IsBoundary (subs : List (List Char × List Char)) (text : List Char) (i : Nat) : Prop :=
  ∀ s ∈ subs, ∀ j < i, FirstAt s.1 text j → j + s.1.length ≤ i

section
variable {i : Nat} {c : Char}

theorem shownAt_of_firstAt (h : AreIndependent subs) (hs : s ∈ subs) (hfirst : FirstAt s.1 text i) :
    shownAt subs text i c = s.2 := by
  have hfind : (subs.find? fun s => FirstAt s.1 text i) = some s :=
    (h.find?_eq_some (text.drop i) fun s' hs' => (of_decide_eq_true hs').1).2
      ⟨hs, decide_eq_true hfirst⟩
  rw [shownAt, hfind]

theorem shownAt_inside (h : AreIndependent subs) (hs : s ∈ subs) {j : Nat}
    (hfirst : FirstAt s.1 text j) (hji : j < i) (hij : i < j + s.1.length) :
    shownAt subs text i c = [] := by
  have hfind : (subs.find? fun s => FirstAt s.1 text i) = none := by
    rw [List.find?_eq_none]
    intro s' hs' hfirst'
    have hend := (h.isToken s hs).add_length_le (h.isToken s' hs') hfirst.1
      (of_decide_eq_true hfirst').1 hji
    omega
  rw [shownAt, hfind]
  exact if_pos ⟨s, hs, j, hji, hfirst, hij⟩

theorem shownAt_outside (hboundary : IsBoundary subs text i)
    (hnone : ∀ s ∈ subs, ¬ FirstAt s.1 text i) : shownAt subs text i c = [c] := by
  have hfind : (subs.find? fun s => FirstAt s.1 text i) = none := by simpa using hnone
  rw [shownAt, hfind]
  refine if_neg fun hinside => ?_
  obtain ⟨s, hs, j, hji, hfirst, hij⟩ := hinside
  exact Nat.not_lt.2 (hboundary s hs j hji hfirst) hij

theorem flatMap_occurrence (h : AreIndependent subs) (hs : s ∈ subs) (hfirst : FirstAt s.1 text i) :
    (s.1.zipIdx i).flatMap (fun c => shownAt subs text c.2 c.1) = s.2 := by
  obtain ⟨tail, htoken, -⟩ := (h.isToken s hs).exists_cons
  have hlength : s.1.length = tail.length + 1 := by rw [htoken, List.length_cons]
  have htail : (tail.zipIdx (i + 1)).flatMap (fun c => shownAt subs text c.2 c.1) = [] := by
    rw [List.flatMap_eq_nil_iff]
    intro c hc
    have hge := List.le_snd_of_mem_zipIdx hc
    have hlt := List.snd_lt_add_of_mem_zipIdx hc
    exact shownAt_inside h hs hfirst (by omega) (by omega)
  rw [htoken, List.zipIdx_cons, List.flatMap_cons, htail, List.append_nil]
  exact shownAt_of_firstAt h hs hfirst

theorem IsBoundary.add (h : AreIndependent subs) (hs : s ∈ subs) (hfirst : FirstAt s.1 text i)
    (hboundary : IsBoundary subs text i) : IsBoundary subs text (i + s.1.length) := by
  intro s' hs' j hj hfirst'
  rcases Nat.lt_trichotomy j i with hlt | rfl | hgt
  · exact Nat.le_add_right_of_le (hboundary s' hs' j hlt hfirst')
  · have heq := (h.isToken s hs).eq_of_prefixes (h.isToken s' hs') hfirst.1 hfirst'.1
    exact Nat.le_of_eq (by rw [heq])
  · have hend := (h.isToken s hs).add_length_le (h.isToken s' hs') hfirst.1 hfirst'.1 hgt
    omega

theorem IsBoundary.succ (hnone : ∀ s ∈ subs, ¬ FirstAt s.1 text i)
    (hboundary : IsBoundary subs text i) : IsBoundary subs text (i + 1) := by
  intro s hs j hj hfirst
  rcases Nat.lt_succ_iff_lt_or_eq.1 hj with hlt | rfl
  · exact Nat.le_succ_of_le (hboundary s hs j hlt hfirst)
  · exact absurd hfirst (hnone s hs)

theorem coming_add (h : AreIndependent subs) (hs : s ∈ subs) (hfirst : FirstAt s.1 text i) :
    (coming subs text i).filter (fun s' => s'.1 ≠ s.1) = coming subs text (i + s.1.length) := by
  have hpos := (h.isToken s hs).length_pos
  unfold coming
  rw [List.filter_filter]
  refine List.filter_congr fun s' hs' => ?_
  rw [← Bool.decide_and, decide_eq_decide]
  constructor
  · intro hother j hj hpre
    obtain ⟨hne, hbefore⟩ := hother
    rcases Nat.lt_trichotomy j i with hlt | rfl | hgt
    · exact hbefore j hlt hpre
    · exact hne ((h.isToken s' hs').eq_of_prefixes (h.isToken s hs) hpre hfirst.1)
    · have hend := (h.isToken s hs).add_length_le (h.isToken s' hs') hfirst.1 hpre hgt
      omega
  · intro hbefore
    refine ⟨fun heq => hbefore i (by omega) (heq ▸ hfirst.1), fun j hj => hbefore j (by omega)⟩

theorem coming_succ (hnone : ∀ s ∈ subs, ¬ FirstAt s.1 text i) :
    coming subs text (i + 1) = coming subs text i := by
  refine List.filter_congr fun s hs => decide_eq_decide.2 ⟨fun h j hj => h j (by omega), ?_⟩
  intro h j hj hpre
  rcases Nat.lt_succ_iff_lt_or_eq.1 hj with hlt | rfl
  · exact h j hlt hpre
  · exact hnone s hs ⟨hpre, h⟩

end

/-- From a boundary on, the pass of the tokens that are still to come shows place after place. -/
theorem pass_coming (h : AreIndependent subs) {i : Nat} (hboundary : IsBoundary subs text i) :
    pass (coming subs text i) (text.drop i) =
      ((text.drop i).zipIdx i).flatMap fun c => shownAt subs text c.2 c.1 := by
  match htext : text.drop i with
  | [] => simp [pass]
  | c :: cs =>
    have hlength : i < text.length := by
      have hcons := congrArg List.length htext
      rw [List.length_drop, List.length_cons] at hcons
      omega
    by_cases hmet : ∃ s ∈ subs, FirstAt s.1 text i
    · obtain ⟨s, hs, hfirst⟩ := hmet
      have hpos := (h.isToken s hs).length_pos
      have hcoming : s ∈ coming subs text i :=
        List.mem_filter.2 ⟨hs, decide_eq_true hfirst.2⟩
      have hothers : AreIndependent (coming subs text i) := h.filter _
      obtain ⟨rest, hrest⟩ := hfirst.1
      have hdrop : text.drop (i + s.1.length) = rest := by
        rw [← List.drop_drop, ← hrest, List.drop_left]
      rw [← htext, ← hrest, pass_token hothers hcoming, coming_add h hs hfirst,
        List.zipIdx_append, List.flatMap_append, flatMap_occurrence h hs hfirst, ← hdrop,
        pass_coming h (hboundary.add h hs hfirst)]
    · have hnone : ∀ s ∈ subs, ¬ FirstAt s.1 text i := by simpa using hmet
      have hdrop : text.drop (i + 1) = cs := by rw [← List.tail_drop, htext, List.tail_cons]
      have hhere : ∀ s ∈ coming subs text i, ¬ s.1 <+: c :: cs := by
        intro s hs hpre
        obtain ⟨hmem, hbefore⟩ := List.mem_filter.1 hs
        exact hnone s hmem ⟨htext ▸ hpre, of_decide_eq_true hbefore⟩
      rw [pass_cons hhere, List.zipIdx_cons, List.flatMap_cons, shownAt_outside hboundary hnone,
        ← coming_succ hnone, ← hdrop, pass_coming h (hboundary.succ hnone)]
      rfl
termination_by text.length - i

theorem replaceInTurn_eq_replaceAtOnce (h : AreIndependent subs) (text : List Char) :
    replaceInTurn subs text = replaceAtOnce subs text := by
  have hall : coming subs text 0 = subs := List.filter_eq_self.2 (by simp)
  have hboundary : IsBoundary subs text 0 := fun s _ j hj => absurd hj (Nat.not_lt_zero j)
  have hpass := pass_coming h hboundary
  rw [hall, List.drop_zero] at hpass
  rw [replaceInTurn_eq_pass h, hpass, replaceAtOnce]

theorem replaceAtOnce_perm (h : AreIndependent subs) {subs' : List (List Char × List Char)}
    (hperm : subs'.Perm subs) (text : List Char) :
    replaceAtOnce subs' text = replaceAtOnce subs text := by
  refine List.flatMap_congr fun c _ => ?_
  have hhere : ∀ s : List Char × List Char, decide (FirstAt s.1 text c.2) = true →
      s.1 <+: text.drop c.2 := fun s hs => (of_decide_eq_true hs).1
  have hfind : (subs'.find? fun s => FirstAt s.1 text c.2) =
      subs.find? fun s => FirstAt s.1 text c.2 := by
    refine Option.ext fun s => ?_
    rw [h.find?_eq_some _ hhere, (h.of_perm hperm).find?_eq_some _ hhere, hperm.mem_iff]
  simp only [shownAt, hfind, hperm.mem_iff]

end Pattern

namespace TimeOfDay
open Pattern

def substitutions (t : TimeOfDay) : List (List Char × List Char) :=
  t.tokens.map fun s => (s.1.toList, s.2.toList)

theorem foldl_replaceFirst (order : List (String × String)) (pattern : List Char) :
    order.foldl (fun text s => replaceFirst s.1.toList s.2.toList text) pattern =
      replaceInTurn (order.map fun s => (s.1.toList, s.2.toList)) pattern := by
  rw [replaceInTurn, List.foldl_map]

def tokenTexts : List (List Char) :=
  ["[HH]", "[H]", "[hh]", "[h]", "[MM]", "[M]", "[T]", "[t]"].map String.toList

theorem map_fst_substitutions (t : TimeOfDay) : t.substitutions.map Prod.fst = tokenTexts := by
  simp only [substitutions, tokens, tokenTexts, List.map_cons, List.map_nil]

theorem isToken_of_mem {token : List Char} (h : token ∈ tokenTexts) : IsToken token := by
  have hshape : ∀ token ∈ tokenTexts, token.head? = some '[' ∧ '[' ∉ token.tail ∧
      token.getLast? = some ']' ∧ ']' ∉ token.dropLast := by decide
  obtain ⟨hopens, hopensOnce, hcloses, hclosesOnce⟩ := hshape token h
  exact ⟨hopens, hopensOnce, hcloses, hclosesOnce⟩

theorem isNeutral_of_digits {value : List Char} (hne : value ≠ [])
    (h : ∀ c ∈ value, Digits.isDigit c = true) : IsNeutral tokenTexts value where
  noOpening hmem := absurd (h '[' hmem) (by decide)
  noClosing hmem := absurd (h ']' hmem) (by decide)
  foreign := by
    have hnone : ∀ token ∈ tokenTexts, token.all (!Digits.isDigit ·) = true := by decide
    obtain ⟨c, hc⟩ := List.exists_mem_of_ne_nil value hne
    refine ⟨c, hc, fun token htoken hmem => ?_⟩
    have hc' := List.all_eq_true.1 (hnone token htoken) c hmem
    simp [h c hc] at hc'

theorem isNeutral_padded (width n : Nat) : IsNeutral tokenTexts (Digits.padded width n).toList :=
  isNeutral_of_digits (by simp) fun _ => Digits.isDigit_of_mem_padded

theorem isNeutral_toString (n : Nat) : IsNeutral tokenTexts (toString n).toList := by
  have hdigits : (toString n).toList = Nat.toDigits 10 n := by simp
  rw [hdigits]
  exact isNeutral_of_digits Nat.toDigits_ne_nil fun _ => Digits.isDigit_of_mem_toDigits

/-- Halves of the day are written with a letter that no token has. -/
theorem isNeutral_meridiem (t : TimeOfDay) : IsNeutral tokenTexts t.meridiem.toList := by
  unfold meridiem
  split
  · exact ⟨by decide, by decide, 'P', by decide, by decide⟩
  · exact ⟨by decide, by decide, 'A', by decide, by decide⟩

theorem isNeutral_lowerMeridiem (t : TimeOfDay) : IsNeutral tokenTexts t.lowerMeridiem.toList := by
  unfold lowerMeridiem
  split
  · exact ⟨by decide, by decide, 'p', by decide, by decide⟩
  · exact ⟨by decide, by decide, 'a', by decide, by decide⟩

theorem areIndependent_substitutions (t : TimeOfDay) : AreIndependent t.substitutions where
  isToken s hs := isToken_of_mem (t.map_fst_substitutions ▸ List.mem_map_of_mem hs)
  isNeutral := by
    rw [map_fst_substitutions]
    simp only [substitutions, tokens, List.map_cons, List.map_nil, List.forall_mem_cons,
      isNeutral_padded, isNeutral_toString, isNeutral_meridiem, isNeutral_lowerMeridiem, true_and]
    exact fun s hs => absurd hs List.not_mem_nil
  nodup := by
    rw [map_fst_substitutions]
    decide

/-- Writing a time replaces all tokens of the pattern at once, each at its first occurrence there,
and leaves everything else. The tokens may be replaced in any order. Their first occurrences lie
apart, and no value makes a token with what is around it: wherever it is put in, a token stands
before it or after it. -/
theorem format_replaces_at_once (t : TimeOfDay) (pattern : List Char) :
    t.format pattern = replaceAtOnce t.substitutions pattern ∧
    (∀ order : List (String × String), order.Perm t.tokens →
      order.foldl (fun text s => replaceFirst s.1.toList s.2.toList text) pattern =
        t.format pattern) ∧
    (∀ s ∈ t.substitutions, ∀ s' ∈ t.substitutions, s ≠ s' →
      ∀ i j, FirstAt s.1 pattern i → FirstAt s'.1 pattern j →
        i + s.1.length ≤ j ∨ j + s'.1.length ≤ i) ∧
    ∀ s ∈ t.substitutions, ∀ s' ∈ t.substitutions, ∀ before after i,
      s'.1 <+: (before ++ s.2 ++ after).drop i →
        i + s'.1.length ≤ before.length ∨ before.length + s.2.length ≤ i := by
  have h := t.areIndependent_substitutions
  have hformat : t.format pattern = replaceAtOnce t.substitutions pattern := by
    rw [format, foldl_replaceFirst]
    exact replaceInTurn_eq_replaceAtOnce h pattern
  refine ⟨hformat, fun order horder => ?_, ?_, ?_⟩
  · have hperm := horder.map fun s : String × String => (s.1.toList, s.2.toList)
    rw [foldl_replaceFirst, replaceInTurn_eq_replaceAtOnce (h.of_perm hperm),
      replaceAtOnce_perm h hperm, hformat]
  · intro s hs s' hs' hne i j hfirst hfirst'
    rcases Nat.lt_trichotomy i j with hlt | rfl | hgt
    · exact Or.inl ((h.isToken s hs).add_length_le (h.isToken s' hs') hfirst.1 hfirst'.1 hlt)
    · refine absurd (h.eq_of_token_eq hs hs' ?_) hne
      exact (h.isToken s hs).eq_of_prefixes (h.isToken s' hs') hfirst.1 hfirst'.1
    · exact Or.inr ((h.isToken s' hs').add_length_le (h.isToken s hs) hfirst'.1 hfirst.1 hgt)
  · intro s hs s' hs' before after i hpre
    exact (h.isToken s' hs').apart_of_isNeutral (List.mem_map_of_mem hs') (h.isNeutral s hs) hpre

example : format ⟨59940, 0, by decide, by decide⟩ "[[T]M] [h][[MM]] [HH [h]".toList =
    "[PMM] 4[39] [HH [h]".toList := by
  decide +kernel

end TimeOfDay
end StatusLine
