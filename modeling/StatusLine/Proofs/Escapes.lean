import Mathlib.Data.List.Basic
import StatusLine.Text.Escaped

/-!
# Escaped lists are read back

A piece that ends in a backslash would take the separator after it into itself, so only the last
piece of a list may end in one. On such lists `split` undoes `join`, and every text is the join of
its pieces.
-/
namespace StatusLine.Escaped
open Pieces

/-- What stands next would be taken for an escaped character. -/
def EndsInBackslash (cs : List Char) : Prop := cs.getLast? = some '\\'

instance (cs : List Char) : Decidable (EndsInBackslash cs) := by
  unfold EndsInBackslash; infer_instance

@[simp] theorem endsInBackslash_nil : ¬ EndsInBackslash [] := by simp [EndsInBackslash]

@[simp] theorem endsInBackslash_singleton (c : Char) : EndsInBackslash [c] ↔ c = '\\' := by
  simp [EndsInBackslash]

@[simp] theorem endsInBackslash_append_cons (as bs : List Char) (b : Char) :
    EndsInBackslash (as ++ b :: bs) ↔ EndsInBackslash (b :: bs) := by
  simp [EndsInBackslash]

theorem endsInBackslash_cons {cs : List Char} (c : Char) (h : cs ≠ []) :
    EndsInBackslash (c :: cs) ↔ EndsInBackslash cs := by
  cases cs with
  | nil => exact absurd rfl h
  | cons d ds => exact endsInBackslash_append_cons [c] ds d

theorem EndsInBackslash.mem {cs : List Char} (h : EndsInBackslash cs) : '\\' ∈ cs :=
  List.mem_of_getLast? h

theorem EndsInBackslash.cons {cs : List Char} (h : EndsInBackslash cs) (c : Char) :
    EndsInBackslash (c :: cs) := by
  have hne : cs ≠ [] := by
    intro hnil
    simp [hnil] at h
  rwa [endsInBackslash_cons c hne]

theorem not_endsInBackslash_cons {c : Char} {cs : List Char} (hc : c ≠ '\\')
    (h : ¬ EndsInBackslash cs) : ¬ EndsInBackslash (c :: cs) := by
  by_cases hcs : cs = []
  · subst hcs
    simpa using hc
  · rwa [endsInBackslash_cons c hcs]

/-- Texts are joined without loss if only the last one ends in a backslash. -/
def IsJoinable (pieces : List (List Char)) : Prop := ∀ p ∈ pieces.dropLast, ¬ EndsInBackslash p

variable {sep : Char}

theorem split_sep (h : sep ≠ '\\') (cs : List Char) :
    split sep (sep :: cs) = [] :: split sep cs := by
  cases cs with
  | nil => simp [split]
  | cons b cs => rw [split, if_neg (by simp [h]), if_pos rfl]

theorem split_backslash_sep (cs : List Char) :
    split sep ('\\' :: sep :: cs) = consHead sep (split sep cs) := by
  simp [split]

theorem split_cons {c : Char} {cs : List Char} (hc : c ≠ sep)
    (h : c = '\\' → cs.head? ≠ some sep) : split sep (c :: cs) = consHead c (split sep cs) := by
  cases cs with
  | nil => simp [split, hc, consHead]
  | cons b cs =>
    have hb : ¬ (c = '\\' ∧ b = sep) := by simpa using h
    rw [split, if_neg hb, if_neg hc]

@[simp] theorem escape_nil : escape sep [] = [] := rfl

theorem escape_cons_sep (cs : List Char) :
    escape sep (sep :: cs) = '\\' :: sep :: escape sep cs := by
  simp [escape]

theorem escape_cons {c : Char} (h : c ≠ sep) (cs : List Char) :
    escape sep (c :: cs) = c :: escape sep cs := by
  simp [escape, h]

theorem head?_escape (h : sep ≠ '\\') (cs : List Char) : (escape sep cs).head? ≠ some sep := by
  cases cs with
  | nil => simp
  | cons c cs =>
    by_cases hc : c = sep
    · subst hc
      simpa [escape_cons_sep] using Ne.symm h
    · simpa [escape_cons hc] using hc

theorem split_escape_append (h : sep ≠ '\\') (p : List Char) {rest q : List Char}
    {qs : List (List Char)} (hrest : split sep rest = q :: qs)
    (hp : EndsInBackslash p → rest.head? ≠ some sep) :
    split sep (escape sep p ++ rest) = (p ++ q) :: qs := by
  induction p with
  | nil => exact hrest
  | cons c p ih =>
    by_cases hc : c = sep
    · subst hc
      have hnext : split c (escape c p ++ rest) = (p ++ q) :: qs :=
        ih fun hb => hp (hb.cons c)
      rw [escape_cons_sep, List.cons_append, List.cons_append, split_backslash_sep, hnext]
      rfl
    · have hnext : split sep (escape sep p ++ rest) = (p ++ q) :: qs :=
        ih fun hb => hp (hb.cons c)
      have hhead : c = '\\' → (escape sep p ++ rest).head? ≠ some sep := by
        intro hb
        cases p with
        | nil => exact hp (by simp [hb])
        | cons d p =>
          rw [List.head?_append_of_ne_nil _ (by unfold escape; simp; split <;> simp)]
          exact head?_escape h (d :: p)
      rw [escape_cons hc, List.cons_append, split_cons hc hhead, hnext]
      rfl

theorem join_cons_cons (p q : List Char) (ps : List (List Char)) :
    join sep (p :: q :: ps) = escape sep p ++ sep :: join sep (q :: ps) := by
  simp [join]

@[simp] theorem join_singleton (p : List Char) : join sep [p] = escape sep p := by simp [join]

theorem split_join (h : sep ≠ '\\') {pieces : List (List Char)} (hne : pieces ≠ [])
    (hj : IsJoinable pieces) : split sep (join sep pieces) = pieces := by
  induction pieces with
  | nil => exact absurd rfl hne
  | cons p ps ih =>
    cases ps with
    | nil =>
      have hnil : split sep [] = [[]] := rfl
      have hs := split_escape_append h p hnil (by simp)
      simpa using hs
    | cons q qs =>
      have hps : split sep (join sep (q :: qs)) = q :: qs :=
        ih (by simp) fun r hr => hj r (by simp [hr])
      have hp : ¬ EndsInBackslash p := hj p (by simp)
      have hrest : split sep (sep :: join sep (q :: qs)) = [] :: q :: qs := by
        rw [split_sep h, hps]
      have hs := split_escape_append h p hrest fun hb => absurd hb hp
      rw [join_cons_cons, hs, List.append_nil]

theorem endsInBackslash_escape {p : List Char} (h : EndsInBackslash (escape sep p)) :
    EndsInBackslash p := by
  rcases List.eq_nil_or_concat p with rfl | ⟨q, c, rfl⟩
  · exact h
  · have hlast : (escape sep (q ++ [c])).getLast? = some c := by
      simp only [escape, List.flatMap_append, List.flatMap_singleton]
      split <;> simp_all
    simpa [EndsInBackslash, hlast] using h

theorem endsInBackslash_join (h : sep ≠ '\\') {pieces : List (List Char)}
    (hb : EndsInBackslash (join sep pieces)) : ∃ p ∈ pieces, EndsInBackslash p := by
  induction pieces with
  | nil => exact absurd hb endsInBackslash_nil
  | cons p ps ih =>
    cases ps with
    | nil => exact ⟨p, by simp, endsInBackslash_escape (by simpa using hb)⟩
    | cons q qs =>
      rw [join_cons_cons, endsInBackslash_append_cons] at hb
      have hne : join sep (q :: qs) ≠ [] := by
        intro hnil
        rw [hnil] at hb
        exact h ((endsInBackslash_singleton sep).1 hb)
      obtain ⟨r, hr, hrb⟩ := ih ((endsInBackslash_cons sep hne).1 hb)
      exact ⟨r, List.mem_cons_of_mem p hr, hrb⟩

theorem join_consHead {c : Char} (hc : c ≠ sep) {pieces : List (List Char)} (hne : pieces ≠ []) :
    join sep (consHead c pieces) = c :: join sep pieces := by
  match pieces with
  | [p] => simp [consHead, escape_cons hc]
  | p :: q :: ps => simp [consHead, join_cons_cons, escape_cons hc]

theorem join_consHead_sep {pieces : List (List Char)} (hne : pieces ≠ []) :
    join sep (consHead sep pieces) = '\\' :: sep :: join sep pieces := by
  match pieces with
  | [p] => simp [consHead, escape_cons_sep]
  | p :: q :: ps => simp [consHead, join_cons_cons, escape_cons_sep]

theorem join_cons_nil {pieces : List (List Char)} (hne : pieces ≠ []) :
    join sep ([] :: pieces) = sep :: join sep pieces := by
  match pieces with
  | p :: ps => simp [join_cons_cons]

theorem join_split (sep : Char) (cs : List Char) : join sep (split sep cs) = cs := by
  fun_induction split sep cs with
  | case1 => rfl
  | case2 => rw [join_cons_nil (by simp)]; rfl
  | case3 a ha => rw [join_singleton, escape_cons ha, escape_nil]
  | case4 a b cs h ih => rw [h.1, h.2, join_consHead_sep (split_ne_nil sep cs), ih]
  | case5 b cs _ ih => rw [join_cons_nil (split_ne_nil sep _), ih]
  | case6 a b cs _ ha ih => rw [join_consHead ha (split_ne_nil sep _), ih]

theorem eq_sep_of_split {b : Char} {cs : List Char} {qs : List (List Char)}
    (h : split sep (b :: cs) = [] :: qs) : b = sep := by
  by_contra hb
  have hcs := join_split sep (b :: cs)
  rw [h] at hcs
  cases qs with
  | nil => simp at hcs
  | cons q qs =>
    rw [join_cons_nil (by simp)] at hcs
    exact hb (List.cons.inj hcs).1.symm

theorem mem_consHead {c : Char} {p : List Char} {pieces : List (List Char)} (hne : pieces ≠ [])
    (h : p ∈ consHead c pieces) : (∃ q qs, pieces = q :: qs ∧ p = c :: q) ∨ p ∈ pieces := by
  cases pieces with
  | nil => exact absurd rfl hne
  | cons q qs =>
    rcases List.mem_cons.1 h with rfl | h
    · exact Or.inl ⟨q, qs, rfl, rfl⟩
    · exact Or.inr (List.mem_cons_of_mem q h)

theorem endsInBackslash_of_mem_split (h : sep ≠ '\\') {cs p : List Char} (hp : p ∈ split sep cs)
    (hb : EndsInBackslash p) : EndsInBackslash cs := by
  fun_induction split sep cs generalizing p with
  | case1 => simp_all
  | case2 => simp_all
  | case3 a ha =>
    obtain rfl := List.mem_singleton.1 hp
    exact hb
  | case4 a b cs _ ih =>
    rcases mem_consHead (split_ne_nil sep cs) hp with ⟨q, qs, hq, rfl⟩ | hp
    · have hne : q ≠ [] := by
        intro heq
        subst heq
        exact h ((endsInBackslash_singleton sep).1 hb)
      have hcs : EndsInBackslash cs := ih (by simp [hq]) ((endsInBackslash_cons sep hne).1 hb)
      exact (hcs.cons b).cons a
    · exact ((ih hp hb).cons b).cons a
  | case5 b cs _ ih =>
    rcases List.mem_cons.1 hp with rfl | hp
    · exact absurd hb endsInBackslash_nil
    · exact (ih hp hb).cons sep
  | case6 a b cs hn ha ih =>
    rcases mem_consHead (split_ne_nil sep (b :: cs)) hp with ⟨q, qs, hq, rfl⟩ | hp
    · have hne : q ≠ [] := by
        intro heq
        subst heq
        exact hn ⟨(endsInBackslash_singleton a).1 hb, eq_sep_of_split hq⟩
      exact (ih (by simp [hq]) ((endsInBackslash_cons a hne).1 hb)).cons a
    · exact (ih hp hb).cons a

theorem isJoinable_cons {p : List Char} {ps : List (List Char)} (hne : ps ≠ []) :
    IsJoinable (p :: ps) ↔ ¬ EndsInBackslash p ∧ IsJoinable ps := by
  simp [IsJoinable, List.dropLast_cons_of_ne_nil hne]

theorem IsJoinable.consHead {c : Char} {pieces : List (List Char)} (hj : IsJoinable pieces)
    (hc : c = '\\' → ∀ qs, pieces ≠ [] :: qs) : IsJoinable (consHead c pieces) := by
  match pieces with
  | [] => simp [Pieces.consHead, IsJoinable]
  | [q] => simp [Pieces.consHead, IsJoinable]
  | q :: r :: rs =>
    rw [isJoinable_cons (by simp)] at hj
    refine (isJoinable_cons (by simp)).2 ⟨?_, hj.2⟩
    by_cases hq : q = []
    · subst hq
      intro hb
      exact hc ((endsInBackslash_singleton c).1 hb) _ rfl
    · rw [endsInBackslash_cons c hq]
      exact hj.1

theorem isJoinable_split (h : sep ≠ '\\') (cs : List Char) : IsJoinable (split sep cs) := by
  fun_induction split sep cs with
  | case1 => simp [IsJoinable]
  | case2 => simp [IsJoinable]
  | case3 => simp [IsJoinable]
  | case4 a b cs _ ih => exact ih.consHead fun hb => absurd hb h
  | case5 b cs _ ih => exact (isJoinable_cons (split_ne_nil sep _)).2 ⟨by simp, ih⟩
  | case6 a b cs hn _ ih => exact ih.consHead fun hb _ hq => hn ⟨hb, eq_sep_of_split hq⟩

def text (sep : Char) (ps : List String) : String :=
  String.ofList (join sep (ps.map String.toList))

theorem map_toList_pieces (sep : Char) (t : String) :
    (pieces sep t).map String.toList = split sep t.toList := by
  simp [pieces]

theorem text_pieces (sep : Char) (t : String) : text sep (pieces sep t) = t := by
  rw [text, map_toList_pieces, join_split, String.ofList_toList]

theorem pieces_ne_nil (sep : Char) (t : String) : pieces sep t ≠ [] := by
  simpa [pieces] using split_ne_nil sep t.toList

theorem pieces_text (h : sep ≠ '\\') {ps : List String} (hne : ps ≠ [])
    (hj : IsJoinable (ps.map String.toList)) : pieces sep (text sep ps) = ps := by
  have hne' : ps.map String.toList ≠ [] := by simpa using hne
  rw [pieces, text, String.toList_ofList, split_join h hne' hj, List.map_map]
  simp

/-- Cutting and joining undo each other. Every text is joined again from its pieces, so that other
texts have other pieces. There is one piece at least, and only the last may end in a backslash.
Every such list, and no other, is cut again out of what is written for it. -/
theorem pieces_invert_text {sep : Char} (h : sep ≠ '\\') :
    (∀ t, text sep (pieces sep t) = t) ∧ Function.Injective (pieces sep) ∧
      (∀ t, pieces sep t ≠ [] ∧ IsJoinable ((pieces sep t).map String.toList)) ∧
      ∀ ps, pieces sep (text sep ps) = ps ↔ ps ≠ [] ∧ IsJoinable (ps.map String.toList) := by
  have hpieces : ∀ t, pieces sep t ≠ [] ∧ IsJoinable ((pieces sep t).map String.toList) := by
    intro t
    rw [map_toList_pieces]
    exact ⟨pieces_ne_nil sep t, isJoinable_split h t.toList⟩
  refine ⟨text_pieces sep, Function.LeftInverse.injective (text_pieces sep), hpieces, fun ps => ?_⟩
  constructor
  · intro hps
    rw [← hps]
    exact hpieces _
  · intro hps
    exact pieces_text h hps.1 hps.2

theorem pieces_invert_text_comma :
    ',' ≠ '\\' ∧ pieces ',' "a\\,\\b\\\\,,c\\" = ["a,\\b\\,", "c\\"] := by
  have h : ',' ≠ '\\' := by decide
  have htext : text ',' ["a,\\b\\,", "c\\"] = "a\\,\\b\\\\,,c\\" := rfl
  rw [← htext]
  exact ⟨h, ((pieces_invert_text h).2.2.2 _).2 ⟨by simp, by simp [IsJoinable, EndsInBackslash]⟩⟩

end StatusLine.Escaped
