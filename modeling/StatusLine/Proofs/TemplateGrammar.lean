import Mathlib.Data.Nat.Find
import StatusLine.Proofs.Steps
import StatusLine.Proofs.TemplateReading

/-!
# The grammar of templates

A template is text and then parts, a part being a placeholder and the text after it. `split` gives
the segments of that derivation. A template without one has a fault, and `split` reports the
leftmost: the state that the scan has reached knows exactly whether a placeholder is open and what
it has read of its body.
-/
namespace StatusLine.Template

def stretch (text : List Char) : List Segment :=
  if text = [] then [] else [.text (String.ofList text)]

theorem flush_eq_stretch (text : List Char) : flush text = stretch text.reverse := by
  simp [flush, stretch]

structure Part where
  body : List Char
  placeholder : Placeholder
  after : List Char

namespace Part

def marks (p : Part) : List Mark :=
  .opening :: (p.body.map .plain ++ .closing :: p.after.map .plain)

def segments (p : Part) : List Segment := .placeholder p.placeholder :: stretch p.after

def IsRead (p : Part) : Prop := Placeholder.read p.body = .ok p.placeholder

end Part

/-- The marks are a text and parts, and these are their segments. -/
def Derives (ms : List Mark) (segs : List Segment) : Prop :=
  ∃ (before : List Char) (parts : List Part), ms = before.map .plain ++ parts.flatMap Part.marks ∧
    (∀ p ∈ parts, p.IsRead) ∧ segs = stretch before ++ parts.flatMap Part.segments

theorem scan_outside_plain (t : String) (acc w : List Char) (ms : List Mark) :
    scan t (.outside acc) (w.map .plain ++ ms) = scan t (.outside (w.reverse ++ acc)) ms := by
  induction w generalizing acc with
  | nil => rfl
  | cons c w ih => simp [scan, ih]

theorem scan_inside_plain (t : String) (acc w : List Char) (ms : List Mark) :
    scan t (.inside acc) (w.map .plain ++ ms) = scan t (.inside (w.reverse ++ acc)) ms := by
  induction w generalizing acc with
  | nil => rfl
  | cons c w ih => simp [scan, ih]

theorem scan_placeholder {t : String} (acc : List Char) {body : List Char} {p : Placeholder}
    {ms : List Mark} {segs : List Segment} (hp : Placeholder.read body = .ok p)
    (h : scan t (.outside []) ms = .ok segs) :
    scan t (.outside acc) (.opening :: (body.map .plain ++ .closing :: ms)) =
      .ok (stretch acc.reverse ++ .placeholder p :: segs) := by
  simp [scan, scan_inside_plain, hp, h, flush_eq_stretch]

theorem scan_parts {t : String} (acc before : List Char) {parts : List Part}
    (h : ∀ p ∈ parts, p.IsRead) :
    scan t (.outside acc) (before.map .plain ++ parts.flatMap Part.marks) =
      .ok (stretch (acc.reverse ++ before) ++ parts.flatMap Part.segments) := by
  rw [scan_outside_plain]
  induction parts generalizing acc before with
  | nil => simp [scan, flush_eq_stretch]
  | cons p parts ih =>
    have hp : Placeholder.read p.body = .ok p.placeholder := h p (by simp)
    have hrest : scan t (.outside []) (p.after.map .plain ++ parts.flatMap Part.marks) =
        .ok (stretch p.after ++ parts.flatMap Part.segments) := by
      rw [scan_outside_plain]
      simpa using ih [] p.after fun q hq => h q (by simp [hq])
    have hscan := scan_placeholder (before.reverse ++ acc) hp hrest
    simpa [Part.marks, Part.segments] using hscan

/-- What a scan that succeeds has found from this state on. -/
def State.Finds : State → List Mark → List Segment → Prop
  | .outside acc, ms, segs => ∃ (before : List Char) (parts : List Part),
    ms = before.map .plain ++ parts.flatMap Part.marks ∧ (∀ p ∈ parts, p.IsRead) ∧
      segs = stretch (acc.reverse ++ before) ++ parts.flatMap Part.segments
  | .inside acc, ms, segs => ∃ body p rest segs', ms = body.map .plain ++ .closing :: rest ∧
    Placeholder.read (acc.reverse ++ body) = .ok p ∧ Derives rest segs' ∧
      segs = .placeholder p :: segs'

theorem finds_of_scan {t : String} {st : State} {ms : List Mark} {segs : List Segment}
    (h : scan t st ms = .ok segs) : st.Finds ms segs := by
  fun_induction scan t st ms generalizing segs with
  | case1 text =>
    obtain rfl := Except.ok.inj h
    exact ⟨[], [], rfl, by simp, by simp [flush_eq_stretch]⟩
  | case2 => simp at h
  | case3 text c ms ih =>
    obtain ⟨before, parts, rfl, hparts, rfl⟩ := ih h
    exact ⟨c :: before, parts, rfl, hparts, by simp⟩
  | case4 body c ms ih =>
    obtain ⟨rest, p, ms', segs', rfl, hp, hd, rfl⟩ := ih h
    exact ⟨c :: rest, p, ms', segs', rfl, by simpa using hp, hd, rfl⟩
  | case5 text ms ih =>
    obtain ⟨found, hfound, hsegs⟩ := bind_eq_ok.1 h
    obtain rfl := Except.ok.inj hsegs
    obtain ⟨body, p, rest, segs', rfl, hp, ⟨before, parts, rfl, hparts, rfl⟩, rfl⟩ := ih hfound
    refine ⟨[], ⟨body, p, before⟩ :: parts, by simp [Part.marks], ?_, ?_⟩
    · intro q hq
      rcases List.mem_cons.1 hq with rfl | hq
      · exact hp
      · exact hparts q hq
    · simp [Part.segments, flush_eq_stretch]
  | case6 => simp at h
  | case7 => simp at h
  | case8 body ms ih =>
    obtain ⟨p, hp, h⟩ := bind_eq_ok.1 h
    obtain ⟨found, hfound, hsegs⟩ := bind_eq_ok.1 h
    obtain rfl := Except.ok.inj hsegs
    exact ⟨[], p, ms, found, rfl, by simpa using hp, ih hfound, rfl⟩

theorem scan_eq_ok {t : String} {ms : List Mark} {segs : List Segment} :
    scan t (.outside []) ms = .ok segs ↔ Derives ms segs := by
  constructor
  · exact finds_of_scan
  · intro h
    obtain ⟨before, parts, rfl, hparts, rfl⟩ := h
    exact scan_parts [] before hparts

/-- After these marks a placeholder is open, and `body` is what has been read of it. -/
def LeavesOpen (before : List Mark) (body : List Char) : Prop :=
  ∃ pre, before = pre ++ .opening :: body.map .plain

theorem not_leavesOpen_nil (body : List Char) : ¬ LeavesOpen [] body := by
  intro h
  obtain ⟨pre, h⟩ := h
  simp at h

theorem leavesOpen_concat {before : List Mark} {m : Mark} {body : List Char} :
    LeavesOpen (before ++ [m]) body ↔ m = .opening ∧ body = [] ∨
      ∃ b c, m = .plain c ∧ LeavesOpen before b ∧ body = b ++ [c] := by
  constructor
  · intro h
    obtain ⟨pre, h⟩ := h
    rcases List.eq_nil_or_concat body with rfl | ⟨b, c, rfl⟩
    · obtain ⟨-, hm⟩ := List.append_inj' h rfl
      exact Or.inl ⟨by simpa using hm, rfl⟩
    · rw [List.concat_eq_append, List.map_append, ← List.cons_append, ← List.append_assoc] at h
      obtain ⟨hbefore, hm⟩ := List.append_inj' h rfl
      exact Or.inr ⟨b, c, by simpa using hm, ⟨pre, hbefore⟩, by simp⟩
  · intro h
    rcases h with ⟨rfl, rfl⟩ | ⟨b, c, rfl, ⟨pre, rfl⟩, rfl⟩
    · exact ⟨before, by simp⟩
    · exact ⟨pre, by simp⟩

/-- What is wrong with the mark that follows, or with the end of the template. -/
inductive FaultAfter (template : String) (before : List Mark) : Option Mark → Fault → Prop
  | nested {body : List Char} (h : LeavesOpen before body) :
    FaultAfter template before (some .opening) (.braceNested template)
  | stray (h : ∀ body, ¬ LeavesOpen before body) :
    FaultAfter template before (some .closing) (.braceStray template)
  | rejected {body : List Char} {f : Fault} (h : LeavesOpen before body)
    (hf : Placeholder.read body = .error f) : FaultAfter template before (some .closing) f
  | unclosed {body : List Char} (h : LeavesOpen before body) :
    FaultAfter template before none (.braceUnclosed template)

def FaultAt (template : String) (ms : List Mark) (i : Nat) (f : Fault) : Prop :=
  i ≤ ms.length ∧ FaultAfter template (ms.take i) ms[i]? f

namespace State

def next : State → Mark → State
  | outside text, .plain c => outside (c :: text)
  | inside body, .plain c => inside (c :: body)
  | _, .opening => inside []
  | _, .closing => outside []

def openBody? : State → Option (List Char)
  | outside _ => none
  | inside body => some body.reverse

def fault? (template : String) : State → Option Mark → Option Fault
  | outside _, some .closing => some (.braceStray template)
  | inside _, some .opening => some (.braceNested template)
  | inside body, some .closing =>
    match Placeholder.read body.reverse with
    | .ok _ => none
    | .error f => some f
  | inside _, none => some (.braceUnclosed template)
  | _, _ => none

def Follows (st : State) (before : List Mark) : Prop :=
  ∀ body, LeavesOpen before body ↔ st.openBody? = some body

theorem follows_nil (text : List Char) : (outside text).Follows [] := by
  intro body
  simp [not_leavesOpen_nil, openBody?]

theorem Follows.next {st : State} {before : List Mark} (h : st.Follows before) (m : Mark) :
    (st.next m).Follows (before ++ [m]) := by
  intro body
  rw [leavesOpen_concat]
  simp only [h _]
  cases m with
  | opening => cases st <;> simp [State.next, openBody?, eq_comm]
  | closing => cases st <;> simp [State.next, openBody?]
  | plain c => cases st <;> simp [State.next, openBody?, eq_comm]

theorem follows_foldl {st : State} {before : List Mark} (h : st.Follows before) (ms : List Mark) :
    (ms.foldl State.next st).Follows (before ++ ms) := by
  induction ms generalizing st before with
  | nil => simpa using h
  | cons m ms ih => simpa using ih (h.next m)

theorem Follows.fault?_eq_some {st : State} {before : List Mark} {t : String} {m : Option Mark}
    {f : Fault} (h : st.Follows before) : st.fault? t m = some f ↔ FaultAfter t before m f := by
  cases st with
  | outside text =>
    have hclosed : ∀ body, ¬ LeavesOpen before body := fun body hb => by
      simpa [openBody?] using (h body).1 hb
    constructor
    · intro hf
      rcases m with _ | _ | _ | c
      · simp [fault?] at hf
      · simp [fault?] at hf
      · obtain rfl := Option.some.inj hf
        exact .stray hclosed
      · simp [fault?] at hf
    · intro h
      rcases h with hb | hb | ⟨hb, -⟩ | hb
      · exact absurd hb (hclosed _)
      · rfl
      · exact absurd hb (hclosed _)
      · exact absurd hb (hclosed _)
  | inside text =>
    have hopen : LeavesOpen before text.reverse := (h _).2 rfl
    have hbody : ∀ body, LeavesOpen before body → body = text.reverse := fun body hb => by
      simpa [openBody?, eq_comm] using (h body).1 hb
    constructor
    · intro hf
      rcases m with _ | _ | _ | c
      · obtain rfl := Option.some.inj hf
        exact .unclosed hopen
      · obtain rfl := Option.some.inj hf
        exact .nested hopen
      · cases hr : Placeholder.read text.reverse with
        | ok p => simp [fault?, hr] at hf
        | error g =>
          obtain rfl : g = f := by simpa [fault?, hr] using hf
          exact .rejected hopen hr
      · simp [fault?] at hf
    · intro h
      rcases h with hb | hb | ⟨hb, hr⟩ | hb
      · rfl
      · exact absurd hopen (hb _)
      · rw [hbody _ hb] at hr
        simp [fault?, hr]
      · rfl

end State

def faultAt? (template : String) (st : State) (ms : List Mark) (i : Nat) : Option Fault :=
  ((ms.take i).foldl State.next st).fault? template ms[i]?

theorem faultAt?_zero (t : String) (st : State) (ms : List Mark) :
    faultAt? t st ms 0 = st.fault? t ms.head? := by
  simp [faultAt?, List.head?_eq_getElem?]

theorem faultAt?_succ (t : String) (st : State) (m : Mark) (ms : List Mark) (i : Nat) :
    faultAt? t st (m :: ms) (i + 1) = faultAt? t (st.next m) ms i := by
  simp [faultAt?]

theorem faultAt?_eq_some {t : String} {ms : List Mark} {i : Nat} {f : Fault} :
    faultAt? t (.outside []) ms i = some f ↔ FaultAfter t (ms.take i) ms[i]? f := by
  have hfollows := State.follows_foldl (State.follows_nil []) (ms.take i)
  exact hfollows.fault?_eq_some

theorem scan_cons_eq_error {t : String} {st : State} {m : Mark} {ms : List Mark} {f : Fault} :
    scan t st (m :: ms) = .error f ↔ st.fault? t (some m) = some f ∨
      st.fault? t (some m) = none ∧ scan t (st.next m) ms = .error f := by
  rcases st with text | body <;> rcases m with _ | _ | c
  · simp [scan, State.fault?, State.next, bind_eq_error]
  · simp [scan, State.fault?]
  · simp [scan, State.fault?, State.next]
  · simp [scan, State.fault?]
  · cases hr : Placeholder.read body.reverse with
    | ok p => simp [scan, State.fault?, State.next, hr, bind_eq_error]
    | error g => simp [scan, State.fault?, hr]
  · simp [scan, State.fault?, State.next]

theorem scan_eq_error {t : String} {st : State} {ms : List Mark} {f : Fault} :
    scan t st ms = .error f ↔
      ∃ i ≤ ms.length, faultAt? t st ms i = some f ∧ ∀ j < i, faultAt? t st ms j = none := by
  induction ms generalizing st with
  | nil =>
    have hscan : scan t st [] = .error f ↔ st.fault? t none = some f := by
      cases st <;> simp [scan, State.fault?]
    rw [hscan]
    constructor
    · intro h
      exact ⟨0, by simp, by simpa [faultAt?_zero] using h, by simp⟩
    · intro h
      obtain ⟨i, hi, hf, -⟩ := h
      obtain rfl : i = 0 := by simpa using hi
      simpa [faultAt?_zero] using hf
  | cons m ms ih =>
    rw [scan_cons_eq_error, ih]
    constructor
    · intro h
      rcases h with h | ⟨h, i, hi, hf, hj⟩
      · exact ⟨0, by simp, by simpa [faultAt?_zero] using h, by simp⟩
      · refine ⟨i + 1, by simpa using hi, by rwa [faultAt?_succ], ?_⟩
        intro j hji
        cases j with
        | zero => simpa [faultAt?_zero] using h
        | succ j => rw [faultAt?_succ, hj j (by omega)]
    · intro h
      obtain ⟨i, hi, hf, hj⟩ := h
      cases i with
      | zero => exact Or.inl (by simpa [faultAt?_zero] using hf)
      | succ i =>
        have h0 := hj 0 (by omega)
        rw [faultAt?_zero] at h0
        refine Or.inr ⟨h0, i, by simpa using hi, by rwa [← faultAt?_succ t st m], ?_⟩
        intro j hji
        rw [← faultAt?_succ t st m]
        exact hj (j + 1) (by omega)

theorem scan_eq_error_iff_leftmost {t : String} {ms : List Mark} {f : Fault} :
    scan t (.outside []) ms = .error f ↔
      ∃ i, FaultAt t ms i f ∧ ∀ j < i, ∀ g, ¬ FaultAt t ms j g := by
  rw [scan_eq_error]
  refine exists_congr fun i => ?_
  constructor
  · intro h
    obtain ⟨hi, hf, hj⟩ := h
    refine ⟨⟨hi, faultAt?_eq_some.1 hf⟩, ?_⟩
    intro j hji g h
    obtain ⟨-, hg⟩ := h
    have hnone := hj j hji
    rw [faultAt?_eq_some.2 hg] at hnone
    simp at hnone
  · intro h
    obtain ⟨⟨hi, hf⟩, hj⟩ := h
    refine ⟨hi, faultAt?_eq_some.2 hf, ?_⟩
    intro j hji
    rw [Option.eq_none_iff_forall_ne_some]
    intro g hg
    exact hj j hji g ⟨by omega, faultAt?_eq_some.1 hg⟩

def isBare : Mark → Bool
  | .plain _ => false
  | _ => true

/-- The bare braces open and close by turns, beginning with an opening and ending with a closing. -/
def Alternates (ms : List Mark) : Prop :=
  ∃ n, ms.filter isBare = (List.replicate n [Mark.opening, .closing]).flatten

/-- The text between a bare opening brace and the closing brace that is the next bare one. -/
def IsBody (ms : List Mark) (body : List Char) : Prop :=
  ∃ pre post, ms = pre ++ .opening :: (body.map .plain ++ .closing :: post)

theorem filter_map_plain (w : List Char) : (w.map Mark.plain).filter isBare = [] := by
  simp [isBare]

theorem exists_map_plain {ms : List Mark} (h : ∀ m ∈ ms, ¬ isBare m) :
    ∃ w : List Char, ms = w.map .plain := by
  induction ms with
  | nil => exact ⟨[], rfl⟩
  | cons m ms ih =>
    obtain ⟨w, rfl⟩ := ih fun n hn => h n (by simp [hn])
    have hm : ¬ isBare m := h m (by simp)
    cases m with
    | opening => simp [isBare] at hm
    | closing => simp [isBare] at hm
    | plain c => exact ⟨c :: w, rfl⟩

theorem exists_of_filter_eq_cons {ms : List Mark} {m : Mark} {bare : List Mark}
    (h : ms.filter isBare = m :: bare) :
    ∃ (w : List Char) (rest : List Mark), ms = w.map .plain ++ m :: rest ∧
      rest.filter isBare = bare := by
  obtain ⟨l, rest, rfl, hl, -, hrest⟩ := List.filter_eq_cons_iff.1 h
  obtain ⟨w, rfl⟩ := exists_map_plain hl
  exact ⟨w, rest, rfl, hrest⟩

theorem Derives.alternates {ms : List Mark} {segs : List Segment} (h : Derives ms segs) :
    Alternates ms := by
  obtain ⟨before, parts, rfl, -, -⟩ := h
  refine ⟨parts.length, ?_⟩
  rw [List.filter_append, filter_map_plain, List.nil_append]
  induction parts with
  | nil => rfl
  | cons p parts ih =>
    have hp : p.marks.filter isBare = [.opening, .closing] := by
      rw [Part.marks, List.filter_cons_of_pos rfl, List.filter_append, filter_map_plain,
        List.nil_append, List.filter_cons_of_pos rfl, filter_map_plain]
    simp [hp, ih, List.replicate_succ]

theorem exists_scan_error {t : String} {ms : List Mark} {i : Nat} {f : Fault}
    (h : FaultAt t ms i f) : ∃ g, scan t (.outside []) ms = .error g := by
  classical
  have hex : ∃ i f, FaultAt t ms i f := ⟨i, f, h⟩
  obtain ⟨g, hg⟩ := Nat.find_spec hex
  refine ⟨g, scan_eq_error_iff_leftmost.2 ⟨Nat.find hex, hg, ?_⟩⟩
  intro j hj g' hg'
  exact Nat.find_min hex hj ⟨g', hg'⟩

theorem faultAt_of_isBody {t : String} {ms : List Mark} {body : List Char} {f : Fault}
    (h : IsBody ms body) (hf : Placeholder.read body = .error f) : ∃ i, FaultAt t ms i f := by
  obtain ⟨pre, post, rfl⟩ := h
  have hopen : LeavesOpen (pre ++ .opening :: body.map .plain) body := ⟨pre, rfl⟩
  refine ⟨(pre ++ Mark.opening :: body.map .plain).length, by simp, ?_⟩
  rw [← List.cons_append, ← List.append_assoc, List.take_left,
    List.getElem?_append_right (Nat.le_refl _), Nat.sub_self]
  exact .rejected hopen hf

theorem accepted_of_scan {t : String} {ms : List Mark} {segs : List Segment}
    (h : scan t (.outside []) ms = .ok segs) {body : List Char} (hbody : IsBody ms body) :
    ∃ p, Placeholder.read body = .ok p := by
  cases hr : Placeholder.read body with
  | ok p => exact ⟨p, rfl⟩
  | error f =>
    obtain ⟨i, hi⟩ := faultAt_of_isBody (t := t) hbody hr
    obtain ⟨g, hg⟩ := exists_scan_error hi
    simp [hg] at h

theorem exists_derives {ms : List Mark} (h : Alternates ms)
    (hread : ∀ body, IsBody ms body → ∃ p, Placeholder.read body = .ok p) :
    ∃ segs, Derives ms segs := by
  obtain ⟨n, hn⟩ := h
  induction n generalizing ms with
  | zero =>
    have hplain : ∀ m ∈ ms, ¬ isBare m := by simpa using hn
    obtain ⟨w, rfl⟩ := exists_map_plain hplain
    exact ⟨_, w, [], by simp, by simp, rfl⟩
  | succ n ih =>
    rw [List.replicate_succ, List.flatten_cons] at hn
    obtain ⟨before, inner, rfl, hinner⟩ := exists_of_filter_eq_cons hn
    obtain ⟨body, rest, rfl, hrest⟩ := exists_of_filter_eq_cons hinner
    obtain ⟨p, hp⟩ := hread body ⟨before.map .plain, rest, rfl⟩
    have hrest' : ∀ b, IsBody rest b → ∃ p, Placeholder.read b = .ok p := by
      intro b h
      obtain ⟨pre, post, rfl⟩ := h
      exact hread b ⟨before.map .plain ++ .opening :: (body.map .plain ++ .closing :: pre), post,
        by simp⟩
    obtain ⟨_, after, parts, rfl, hparts, rfl⟩ := ih hrest' hrest
    refine ⟨_, before, ⟨body, p, after⟩ :: parts, by simp [Part.marks], ?_, rfl⟩
    intro q hq
    rcases List.mem_cons.1 hq with rfl | hq
    · exact hp
    · exact hparts q hq

theorem exists_scan_ok {t : String} {ms : List Mark} :
    (∃ segs, scan t (.outside []) ms = .ok segs) ↔
      Alternates ms ∧ ∀ body, IsBody ms body → ∃ p, Placeholder.read body = .ok p := by
  constructor
  · intro h
    obtain ⟨segs, h⟩ := h
    exact ⟨(scan_eq_ok.1 h).alternates, fun body hbody => accepted_of_scan h hbody⟩
  · intro h
    obtain ⟨halt, hread⟩ := h
    obtain ⟨segs, h⟩ := exists_derives halt hread
    exact ⟨segs, scan_eq_ok.2 h⟩

/-- Templates are cut along their grammar. Every template has one reading; it is accepted when its
bare braces alternate and its bodies are accepted, the segments are then those of its derivation,
and otherwise the leftmost fault is reported. -/
theorem split_follows_grammar (t : String) :
    ∃ gs, Glyph.IsReading gs t.toList ∧ (∀ gs', Glyph.IsReading gs' t.toList → gs' = gs) ∧
      ((∃ segs, split t = .ok segs) ↔ Alternates (gs.map Glyph.mark) ∧
        ∀ body, IsBody (gs.map Glyph.mark) body → ∃ p, Placeholder.read body = .ok p) ∧
      (∀ segs, split t = .ok segs ↔ Derives (gs.map Glyph.mark) segs) ∧
      (∀ f, split t = .error f ↔ ∃ i, FaultAt t (gs.map Glyph.mark) i f ∧
        ∀ j < i, ∀ g, ¬ FaultAt t (gs.map Glyph.mark) j g) ∧
      (Fault.braceNested t).report =
        Failure.invalidTemplateString t "contains a nested opening brace" ∧
      (Fault.braceStray t).report = Failure.invalidTemplateString t
        "contains a closing brace without a matching opening brace" ∧
      (Fault.braceUnclosed t).report =
        Failure.invalidTemplateString t "contains an unterminated dynamic value" := by
  have hreading := Glyph.isReading_ofText t.toList
  refine ⟨Glyph.ofText t.toList, hreading, fun gs' h => h.eq_ofText, ?_⟩
  rw [Glyph.map_mark_ofText]
  refine ⟨exists_scan_ok, fun segs => scan_eq_ok, fun f => scan_eq_error_iff_leftmost, ?_⟩
  exact ⟨rfl, rfl, rfl⟩

end StatusLine.Template
