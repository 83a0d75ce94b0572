import Mathlib.Data.List.Chain
import StatusLine.Template

/-!
# Reading a template from left to right

A template is read into glyphs: a brace with the backslash before it, a bare brace, and every other
character by itself. `IsReading` says what a reading is without saying how it is found: the glyphs
spell the text, and no backslash is left standing before a bare brace. There is exactly one, and its
marks are the ones that are cut into segments.
-/
namespace StatusLine

inductive Glyph
  | escaped (closing : Bool)
  | bare (closing : Bool)
  | other (c : Char)
  deriving DecidableEq, Repr

namespace Glyph

def brace (closing : Bool) : Char := if closing then '}' else '{'

def source : Glyph → List Char
  | escaped closing => ['\\', brace closing]
  | bare closing => [brace closing]
  | other c => [c]

def mark : Glyph → Mark
  | escaped closing => .plain (brace closing)
  | bare false => .opening
  | bare true => .closing
  | other c => .plain c

/-- A backslash directly before a brace belongs to that brace. -/
def Separate (g h : Glyph) : Prop := g = other '\\' → ∀ closing, h ≠ bare closing

structure IsReading (gs : List Glyph) (cs : List Char) : Prop where
  source_eq : gs.flatMap source = cs
  not_brace : ∀ c, other c ∈ gs → ∀ closing, c ≠ brace closing
  separate : gs.IsChain Separate

@[simp] theorem brace_ne_backslash (closing : Bool) : brace closing ≠ '\\' := by
  cases closing <;> decide

theorem eq_brace_iff {c : Char} : (∃ closing, c = brace closing) ↔ c = '{' ∨ c = '}' := by
  simp [brace]

def ofChar (c : Char) : Glyph :=
  if c = '{' then bare false else if c = '}' then bare true else other c

def ofText : List Char → List Glyph
  | [] => []
  | [c] => [ofChar c]
  | a :: b :: cs =>
    if a = '\\' ∧ (b = '{' ∨ b = '}') then escaped (b = '}') :: ofText cs
    else ofChar a :: ofText (b :: cs)

theorem brace_decide {c : Char} (h : c = '{' ∨ c = '}') : brace (c = '}') = c := by
  rcases h with rfl | rfl <;> rfl

@[simp] theorem source_ofChar (c : Char) : (ofChar c).source = [c] := by
  unfold ofChar
  split_ifs <;> simp_all [source, brace]

@[simp] theorem mark_ofChar (c : Char) : (ofChar c).mark = Mark.ofChar c := by
  unfold ofChar Mark.ofChar
  split_ifs <;> rfl

theorem ofChar_eq_other {c d : Char} :
    ofChar c = other d ↔ c = d ∧ ∀ closing, c ≠ brace closing := by
  unfold ofChar
  split_ifs <;> simp_all [brace]

theorem ofChar_eq_bare {c : Char} {closing : Bool} :
    ofChar c = bare closing ↔ c = brace closing := by
  unfold ofChar
  split_ifs <;> cases closing <;> simp_all [brace]

theorem map_mark_ofText (cs : List Char) : (ofText cs).map mark = Mark.ofText cs := by
  fun_induction ofText cs with
  | case1 => rfl
  | case2 c => simp [Mark.ofText]
  | case3 a b cs h ih =>
    rw [Mark.ofText, if_pos h, List.map_cons, ih, mark, brace_decide h.2]
  | case4 a b cs h ih => rw [Mark.ofText, if_neg h, List.map_cons, ih, mark_ofChar]

theorem head_eq_of_bare {closing : Bool} {cs : List Char} {gs : List Glyph}
    (h : ofText cs = bare closing :: gs) : cs.head? = some (brace closing) := by
  fun_cases ofText cs with
  | case1 => simp [ofText] at h
  | case2 c =>
    rw [ofText] at h
    simpa using ofChar_eq_bare.1 (List.cons.inj h).1
  | case3 a b cs hb => simp [ofText, hb] at h
  | case4 a b cs hb =>
    rw [ofText, if_neg hb] at h
    simpa using ofChar_eq_bare.1 (List.cons.inj h).1

theorem separate_ofText (cs : List Char) : (ofText cs).IsChain Separate := by
  fun_induction ofText cs with
  | case1 => exact .nil
  | case2 c => exact .singleton _
  | case3 a b cs h ih =>
    refine List.isChain_cons.2 ⟨?_, ih⟩
    intro g _ hg
    simp at hg
  | case4 a b cs h ih =>
    refine List.isChain_cons.2 ⟨?_, ih⟩
    intro g hg ha closing heq
    subst heq
    obtain ⟨gs, hgs⟩ : ∃ gs, ofText (b :: cs) = bare closing :: gs := by
      cases ht : ofText (b :: cs) with
      | nil => simp [ht] at hg
      | cons k ks => exact ⟨ks, by simpa [ht] using hg⟩
    have hb : b = brace closing := by simpa using head_eq_of_bare hgs
    exact h ⟨(ofChar_eq_other.1 ha).1, eq_brace_iff.1 ⟨closing, hb⟩⟩

theorem isReading_ofText (cs : List Char) : IsReading (ofText cs) cs := by
  refine ⟨?_, ?_, separate_ofText cs⟩
  · fun_induction ofText cs with
    | case1 => rfl
    | case2 c => simp
    | case3 a b cs h ih => rw [List.flatMap_cons, ih, source, brace_decide h.2, h.1]; rfl
    | case4 a b cs h ih => rw [List.flatMap_cons, ih, source_ofChar]; rfl
  · intro c hc
    fun_induction ofText cs with
    | case1 => simp at hc
    | case2 d =>
      have hd : ofChar d = other c := (List.mem_singleton.1 hc).symm
      obtain ⟨rfl, hb⟩ := ofChar_eq_other.1 hd
      exact hb
    | case3 a b cs h ih => exact ih (by simpa using hc)
    | case4 a b cs h ih =>
      rcases List.mem_cons.1 hc with hd | hc
      · obtain ⟨rfl, hb⟩ := ofChar_eq_other.1 hd.symm
        exact hb
      · exact ih hc

theorem ofText_backslash_brace (closing : Bool) (cs : List Char) :
    ofText ('\\' :: brace closing :: cs) = escaped closing :: ofText cs := by
  cases closing <;> simp [ofText, brace]

theorem ofText_cons (c : Char) (cs : List Char)
    (h : c = '\\' → ∀ closing, cs.head? ≠ some (brace closing)) :
    ofText (c :: cs) = ofChar c :: ofText cs := by
  cases cs with
  | nil => rfl
  | cons d cs =>
    have hn : ¬ (c = '\\' ∧ (d = '{' ∨ d = '}')) := by
      intro h
      obtain ⟨hc, hd⟩ := h
      obtain ⟨closing, rfl⟩ := eq_brace_iff.2 hd
      exact h hc closing rfl
    rw [ofText, if_neg hn]

theorem head?_source {gs : List Glyph} (hb : ∀ c, other c ∈ gs → ∀ closing, c ≠ brace closing)
    (hs : (other '\\' :: gs).IsChain Separate) (closing : Bool) :
    (gs.flatMap source).head? ≠ some (brace closing) := by
  cases gs with
  | nil => simp
  | cons g gs =>
    cases g with
    | escaped b => simpa [source] using (brace_ne_backslash closing).symm
    | bare b => exact absurd rfl ((List.isChain_cons_cons.1 hs).1 rfl b)
    | other c => simpa [source] using hb c (by simp) closing

theorem IsReading.eq_ofText {gs : List Glyph} {cs : List Char} (h : IsReading gs cs) :
    gs = ofText cs := by
  obtain ⟨rfl, hb, hs⟩ := h
  induction gs with
  | nil => rfl
  | cons g gs ih =>
    have hb' : ∀ c, other c ∈ gs → ∀ closing, c ≠ brace closing :=
      fun c hc => hb c (List.mem_cons_of_mem g hc)
    rw [List.flatMap_cons]
    cases g with
    | escaped b => rw [source, List.cons_append, List.singleton_append, ofText_backslash_brace,
        ← ih hb' hs.tail]
    | bare b =>
      have hc := ofText_cons (brace b) (gs.flatMap source)
        fun hc => absurd hc (brace_ne_backslash b)
      rw [source, List.singleton_append, hc, ← ih hb' hs.tail, ofChar_eq_bare.2 rfl]
    | other c =>
      have hc := ofText_cons c (gs.flatMap source) (by
        intro heq
        subst heq
        exact head?_source hb' hs)
      have hother : ofChar c = other c := ofChar_eq_other.2 ⟨rfl, hb c (by simp)⟩
      rw [source, List.singleton_append, hc, ← ih hb' hs.tail, hother]

end Glyph

namespace Mark

/-- A backslash that is left as text does not touch a bare brace. -/
def Separate (m n : Mark) : Prop := m = .plain '\\' → n ≠ .opening ∧ n ≠ .closing

theorem separate_ofText (cs : List Char) : (ofText cs).IsChain Separate := by
  rw [← Glyph.map_mark_ofText, List.isChain_map]
  refine (Glyph.separate_ofText cs).imp fun g h hgh hg => ?_
  have hother : g = Glyph.other '\\' := by
    cases g with
    | escaped b => simp [Glyph.mark] at hg
    | bare b => cases b <;> simp [Glyph.mark] at hg
    | other c => simpa [Glyph.mark] using hg
  have hbare := hgh hother
  cases h with
  | escaped b => simp [Glyph.mark]
  | bare b => exact absurd rfl (hbare b)
  | other c => simp [Glyph.mark]

end Mark
end StatusLine
