import Mathlib.Data.List.Basic
import StatusLine.Words.Split

/-!
# Words and the gaps between them

All styles cut a name by one rule: a separator ends a word and is dropped, and a capital starts a
word when one has begun. So the words with a joiner in their gaps are the name with the joiner for
each separator and before each such capital. A gap at a capital has a letter on both sides, so an
empty word has nothing but separators and the ends of the name beside it.
-/
namespace StatusLine

namespace Unicode

theorem Ranges.contains_eq_false {rs others : Ranges}
    (h : ∀ r ∈ rs, ∀ o ∈ others, r.2 < o.1 ∨ o.2 < r.1) {c : Char} (hc : rs.contains c = true) :
    others.contains c = false := by
  rw [Bool.eq_false_iff]
  intro ho
  obtain ⟨r, hr, hle, hge⟩ := (contains_iff rs c).1 hc
  obtain ⟨o, ho, hle', hge'⟩ := (contains_iff others c).1 ho
  have hapart := h r hr o ho
  omega

theorem not_isUppercase_of_isBlank {c : Char} (h : isBlank c = true) : isUppercase c = false :=
  Ranges.contains_eq_false (by decide +kernel) h

end Unicode

namespace Words
open Unicode Pieces

def isSeparator : WordFormat → Char → Bool
  | .camel, c | .pascal, c | .space, c => isBlank c
  | .kebab, c => c == '-' || isBlank c
  | .snake, c => c == '_' || isBlank c
  | .noSplitting, _ => false

def isCapital : WordFormat → Char → Bool
  | .camel, c | .pascal, c => isUppercase c
  | .kebab, _ | .snake, _ | .space, _ | .noSplitting, _ => false

def withPrevious (cs : List Char) : List (Option Char × Char) := (none :: cs.map some).zip cs

/-- A name with the joiner for each separator and, in the styles with capitals, before each
uppercase character but the first one of the name and those after a blank. -/
def respell (joiner : List Char) (format : WordFormat) (name : List Char) : List Char :=
  match format with
  | .kebab | .snake | .space => name.flatMap fun c => if isSeparator format c then joiner else [c]
  | .camel | .pascal => (withPrevious name).flatMap fun (previous, c) =>
    (if isUppercase c && previous.any (!isBlank ·) then joiner else []) ++
      if isBlank c then joiner else [c]
  | .noSplitting => name

/-! ## One rule for all styles -/

/-- A text in words: a separator ends a word, a capital starts one when a word has `begun`, and any
other character continues it. -/
inductive Cut (separator capital : Char → Bool) : Bool → List Char → List (List Char) → Prop
  | done {begun : Bool} : Cut separator capital begun [] [[]]
  | separator {begun : Bool} {c : Char} {cs : List Char} {ws : List (List Char)}
    (hc : separator c = true) (h : Cut separator capital false cs ws) :
    Cut separator capital begun (c :: cs) ([] :: ws)
  | capital {c : Char} {cs w : List Char} {ws : List (List Char)} (hs : separator c = false)
    (hc : capital c = true) (h : Cut separator capital true cs (w :: ws)) :
    Cut separator capital true (c :: cs) ([] :: (c :: w) :: ws)
  | letter {begun : Bool} {c : Char} {cs w : List Char} {ws : List (List Char)}
    (hs : separator c = false) (hc : begun = true → capital c = false)
    (h : Cut separator capital true cs (w :: ws)) :
    Cut separator capital begun (c :: cs) ((c :: w) :: ws)

theorem cut_splitWhere (p : Char → Bool) (begun : Bool) (cs : List Char) :
    Cut p (fun _ => false) begun cs (splitWhere p cs) := by
  induction cs generalizing begun with
  | nil => exact .done
  | cons c cs ih =>
    cases hc : p c with
    | true =>
      rw [splitWhere, if_pos hc]
      exact .separator hc (ih false)
    | false =>
      obtain ⟨w, ws, hws⟩ := List.exists_cons_of_ne_nil (splitWhere_ne_nil p cs)
      rw [splitWhere, if_neg (by simp [hc]), hws]
      exact .letter hc (fun _ => rfl) (hws ▸ ih true)

theorem cut_splitCapitals (begun : Bool) (cs : List Char) :
    Cut isBlank isUppercase begun cs (splitCapitals begun cs) := by
  induction cs generalizing begun with
  | nil => exact .done
  | cons c cs ih =>
    obtain ⟨w, ws, hws⟩ := List.exists_cons_of_ne_nil (splitCapitals_ne_nil true cs)
    have hrest : Cut isBlank isUppercase true cs (w :: ws) := hws ▸ ih true
    unfold splitCapitals
    rw [hws]
    split
    case isTrue hc => exact .separator hc (ih false)
    case isFalse hs =>
      simp only [Bool.not_eq_true] at hs
      split
      case isTrue hc =>
        obtain ⟨rfl, hc⟩ := (Bool.and_eq_true _ _).mp hc
        exact .capital hs hc hrest
      case isFalse hc => exact .letter hs (by simpa using hc) hrest

theorem cut_split (format : WordFormat) (name : List Char) :
    Cut (isSeparator format) (isCapital format) false name (split format name) := by
  cases format with
  | camel | pascal => exact cut_splitCapitals false name
  | kebab | snake | space => exact cut_splitWhere _ false name
  | noSplitting =>
    have hcut := cut_splitWhere (fun _ => false) false name
    rwa [splitWhere_of_forall fun _ _ => rfl] at hcut

namespace Cut
variable {separator capital : Char → Bool} {begun : Bool} {cs : List Char} {ws : List (List Char)}

theorem unique (h : Cut separator capital begun cs ws) {ws' : List (List Char)}
    (h' : Cut separator capital begun cs ws') : ws = ws' := by
  induction h generalizing ws' with
  | done =>
    cases h'
    rfl
  | separator hc _ ih =>
    cases h' with
    | separator _ h' => rw [ih h']
    | capital hs | letter hs => simp [hc] at hs
  | capital hs hc _ ih =>
    cases h' with
    | separator hc' => simp [hs] at hc'
    | capital _ _ h' =>
      obtain ⟨rfl, rfl⟩ := List.cons.inj (ih h')
      rfl
    | letter _ hc' => simp [hc] at hc'
  | letter hs hc _ ih =>
    cases h' with
    | separator hc' => simp [hs] at hc'
    | capital _ hc' => simp [hc] at hc'
    | letter _ _ h' =>
      obtain ⟨rfl, rfl⟩ := List.cons.inj (ih h')
      rfl

theorem not_separator (h : Cut separator capital begun cs ws) :
    ∀ w ∈ ws, ∀ c ∈ w, separator c = false := by
  induction h with
  | done => simp
  | separator _ _ ih => exact List.forall_mem_cons.2 ⟨by simp, ih⟩
  | @capital c _ w _ hs _ _ ih =>
    obtain ⟨hw, hws⟩ := List.forall_mem_cons.1 ih
    have hword : ∀ c' ∈ c :: w, separator c' = false := List.forall_mem_cons.2 ⟨hs, hw⟩
    exact List.forall_mem_cons.2 ⟨by simp, List.forall_mem_cons.2 ⟨hword, hws⟩⟩
  | letter hs _ _ ih =>
    obtain ⟨hw, hws⟩ := List.forall_mem_cons.1 ih
    exact List.forall_mem_cons.2 ⟨List.forall_mem_cons.2 ⟨hs, hw⟩, hws⟩

theorem not_capital (h : Cut separator capital begun cs ws) :
    (∀ w ∈ ws, ∀ c ∈ w.tail, capital c = false) ∧
      (begun = true → ∀ c ∈ ws.headI, capital c = false) := by
  induction h with
  | done => simp
  | separator _ _ ih => exact ⟨List.forall_mem_cons.2 ⟨by simp, ih.1⟩, by simp⟩
  | capital _ _ _ ih =>
    obtain ⟨hall, hfirst⟩ := ih
    have hws := (List.forall_mem_cons.1 hall).2
    exact ⟨List.forall_mem_cons.2 ⟨by simp, List.forall_mem_cons.2 ⟨hfirst rfl, hws⟩⟩, by simp⟩
  | letter _ hc _ ih =>
    obtain ⟨hall, hfirst⟩ := ih
    have hws := (List.forall_mem_cons.1 hall).2
    exact ⟨List.forall_mem_cons.2 ⟨hfirst rfl, hws⟩,
      fun hb => List.forall_mem_cons.2 ⟨hc hb, hfirst rfl⟩⟩

theorem append (h : Cut separator capital begun cs ws) {s : Char} (hs : separator s = true)
    {cs' : List Char} {ws' : List (List Char)} (h' : Cut separator capital false cs' ws') :
    Cut separator capital begun (cs ++ s :: cs') (ws ++ ws') := by
  induction h with
  | done => exact .separator hs h'
  | separator hc _ ih => exact .separator hc ih
  | capital hs hc _ ih => exact .capital hs hc ih
  | letter hs hc _ ih => exact .letter hs hc ih

theorem ne_nil (h : Cut separator capital begun cs ws) : ws ≠ [] := by
  cases h <;> simp

theorem intercalate_eq (h : Cut separator capital begun cs ws)
    (hcapital : ∀ c, separator c = true → capital c = false) (joiner : List Char)
    (previous : Option Char) (hbegun : begun = previous.any (!separator ·)) :
    joiner.intercalate ws = ((previous :: cs.map some).zip cs).flatMap fun (previous, c) =>
      (if capital c && previous.any (!separator ·) then joiner else []) ++
        if separator c then joiner else [c] := by
  have hhead : ∀ (c : Char) (w : List Char) (ws : List (List Char)),
      joiner.intercalate ((c :: w) :: ws) = c :: joiner.intercalate (w :: ws) := by
    intro c w ws
    cases ws <;> simp
  induction h generalizing previous with
  | done => simp
  | @separator _ c _ _ hc h ih =>
    rw [List.intercalate_cons_of_ne_nil h.ne_nil, ih (some c) (by simp [hc])]
    simp [hc, hcapital c hc]
  | @capital c _ _ _ hs hc _ ih =>
    rw [List.intercalate_cons_cons, hhead, ih (some c) (by simp [hs])]
    simp [hs, hc, ← hbegun]
  | @letter _ c _ _ _ hs hc _ ih =>
    rw [hhead, ih (some c) (by simp [hs])]
    rw [hbegun] at hc
    cases hcap : capital c <;> simp_all

/-- A word that is empty has a separator or an end of the text on each side. -/
theorem exists_of_nil_mem (h : Cut separator capital begun cs ws) (before : List (List Char))
    {after : List (List Char)} (hws : ws = before ++ [] :: after)
    (hbegun : begun = true → before ≠ []) :
    ∃ l r, cs = l ++ r ∧
      (l = [] ∧ before = [] ∨ ∃ l' s, l = l' ++ [s] ∧ separator s = true ∧
        Cut separator capital begun l' before) ∧
      (r = [] ∧ after = [] ∨ ∃ s r', r = s :: r' ∧ separator s = true ∧
        Cut separator capital false r' after) := by
  induction h generalizing before with
  | done =>
    obtain ⟨rfl, rfl⟩ : before = [] ∧ after = [] := by
      cases before <;> simp_all
    exact ⟨[], [], rfl, Or.inl ⟨rfl, rfl⟩, Or.inl ⟨rfl, rfl⟩⟩
  | @separator _ c cs ws hc h ih =>
    cases before with
    | nil =>
      obtain rfl : ws = after := by simpa using hws
      exact ⟨[], c :: cs, rfl, Or.inl ⟨rfl, rfl⟩, Or.inr ⟨c, cs, rfl, hc, h⟩⟩
    | cons w before =>
      obtain ⟨rfl, rfl⟩ : [] = w ∧ ws = before ++ [] :: after := by simpa using hws
      obtain ⟨l, r, rfl, hl, hr⟩ := ih before rfl (by simp)
      refine ⟨c :: l, r, rfl, Or.inr ?_, hr⟩
      rcases hl with ⟨rfl, rfl⟩ | ⟨l', s, rfl, hs, hl'⟩
      · exact ⟨[], c, rfl, hc, .done⟩
      · exact ⟨c :: l', s, rfl, hs, .separator hc hl'⟩
  | @capital c cs w ws hs hc h ih =>
    match before with
    | [] => exact absurd rfl (hbegun rfl)
    | [v] => simp at hws
    | v :: v' :: before =>
      obtain ⟨rfl, rfl, rfl⟩ : [] = v ∧ c :: w = v' ∧ ws = before ++ [] :: after := by
        simpa using hws
      obtain ⟨l, r, rfl, hl, hr⟩ := ih (w :: before) rfl (by simp)
      obtain ⟨l', s, rfl, hs', hl'⟩ := hl.resolve_left (by simp)
      exact ⟨c :: (l' ++ [s]), r, rfl, Or.inr ⟨c :: l', s, rfl, hs', .capital hs hc hl'⟩, hr⟩
  | @letter _ c cs w ws hs hc h ih =>
    match before with
    | [] => simp at hws
    | v :: before =>
      obtain ⟨rfl, rfl⟩ : c :: w = v ∧ ws = before ++ [] :: after := by simpa using hws
      obtain ⟨l, r, rfl, hl, hr⟩ := ih (w :: before) rfl (by simp)
      obtain ⟨l', s, rfl, hs', hl'⟩ := hl.resolve_left (by simp)
      exact ⟨c :: (l' ++ [s]), r, rfl, Or.inr ⟨c :: l', s, rfl, hs', .letter hs hc hl'⟩, hr⟩

end Cut

/-! ## What splitting keeps -/

theorem split_eq_iff {format : WordFormat} {name : List Char} {ws : List (List Char)} :
    split format name = ws ↔ Cut (isSeparator format) (isCapital format) false name ws :=
  ⟨fun h => h ▸ cut_split format name, (cut_split format name).unique⟩

theorem isCapital_of_isSeparator (format : WordFormat) {c : Char}
    (h : isSeparator format c = true) : isCapital format c = false := by
  cases format with
  | camel | pascal => exact not_isUppercase_of_isBlank h
  | kebab | snake | space | noSplitting => rfl

theorem flatMap_withPrevious (f : Char → List Char) (cs : List Char) :
    (withPrevious cs).flatMap (fun (_, c) => f c) = cs.flatMap f := by
  have hmap : (withPrevious cs).map Prod.snd = cs := List.map_snd_zip (by simp)
  conv_rhs => rw [← hmap, List.flatMap_map]

theorem intercalate_split (joiner : List Char) (format : WordFormat) (name : List Char) :
    joiner.intercalate (split format name) = respell joiner format name := by
  have hcut := (cut_split format name).intercalate_eq
    (fun c => isCapital_of_isSeparator format) joiner none rfl
  cases format with
  | camel | pascal => exact hcut
  | kebab | snake | space =>
    rw [respell, ← flatMap_withPrevious]
    exact hcut
  | noSplitting => simp [split, respell]

def WordsBefore (format : WordFormat) (l : List Char) (words : List (List Char)) : Prop :=
  l = [] ∧ words = [] ∨
    ∃ l' s, l = l' ++ [s] ∧ isSeparator format s = true ∧ words = split format l'

def WordsAfter (format : WordFormat) (r : List Char) (words : List (List Char)) : Prop :=
  r = [] ∧ words = [] ∨
    ∃ s r', r = s :: r' ∧ isSeparator format s = true ∧ words = split format r'

theorem WordsAfter.split_eq {format : WordFormat} {r : List Char} {after : List (List Char)}
    (h : WordsAfter format r after) : split format r = [] :: after := by
  rcases h with ⟨rfl, rfl⟩ | ⟨s, r', rfl, hs, rfl⟩
  · exact split_eq_iff.2 .done
  · exact split_eq_iff.2 (.separator hs (cut_split format r'))

theorem split_eq_append_nil {format : WordFormat} {name : List Char}
    {before after : List (List Char)} : split format name = before ++ [] :: after ↔
      ∃ l r, name = l ++ r ∧ WordsBefore format l before ∧ WordsAfter format r after := by
  constructor
  · intro h
    obtain ⟨l, r, rfl, hl, hr⟩ := (split_eq_iff.1 h).exists_of_nil_mem before rfl (by simp)
    refine ⟨l, r, rfl, hl.imp_right ?_, hr.imp_right ?_⟩
    · rintro ⟨l', s, rfl, hs, hcut⟩
      exact ⟨l', s, rfl, hs, (split_eq_iff.2 hcut).symm⟩
    · rintro ⟨s, r', rfl, hs, hcut⟩
      exact ⟨s, r', rfl, hs, (split_eq_iff.2 hcut).symm⟩
  · rintro ⟨l, r, rfl, hl, hr⟩
    rcases hl with ⟨rfl, rfl⟩ | ⟨l', s, rfl, hs, rfl⟩
    · exact hr.split_eq
    · rw [split_eq_iff, List.append_assoc, ← hr.split_eq]
      exact (cut_split format l').append hs (cut_split format r)

/-- Splitting loses and invents nothing: the words with a joiner between them are the name, the
joiner in place of each separator and before each capital that starts a word inside the name. No
word has a separator, and a capital only at its start. A word is empty exactly where nothing but a
separator or an end of the name is on each side. -/
theorem split_keeps_characters (format : WordFormat) (name joiner : List Char) :
    joiner.intercalate (split format name) = respell joiner format name ∧
    (∀ w ∈ split format name, ∀ c ∈ w, isSeparator format c = false) ∧
    (∀ w ∈ split format name, ∀ c ∈ w.tail, isCapital format c = false) ∧
    ∀ before after, split format name = before ++ [] :: after ↔
      ∃ l r, name = l ++ r ∧ WordsBefore format l before ∧ WordsAfter format r after := by
  have hcut := cut_split format name
  exact ⟨intercalate_split joiner format name, hcut.not_separator, hcut.not_capital.1,
    fun before after => split_eq_append_nil⟩

example : split .camel " HTTPPort".toList = [[], ['H'], ['T'], ['T'], ['P'], "Port".toList] := by
  decide +kernel

end Words
end StatusLine
