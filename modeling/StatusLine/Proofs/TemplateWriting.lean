import StatusLine.Proofs.PlaceholderWriting
import StatusLine.Proofs.TemplateGrammar

/-!
# Templates are written down and read back

`IsWritable` says which segments come out of a template: every segment can be written by itself and
each fits before the next. `write` is a template for them. What is decoded brace by brace, comma by
comma and semicolon by semicolon is encoded in the opposite order, and the three layers share the
backslash: a piece keeps its own backslashes as long as it does not end in one.
-/
namespace StatusLine
open Escaped

def escapeBraces (cs : List Char) : List Char :=
  cs.flatMap fun c => if c = '{' ∨ c = '}' then ['\\', c] else [c]

theorem escapeBraces_cons (c : Char) (cs : List Char) :
    escapeBraces (c :: cs) =
      (if c = '{' ∨ c = '}' then ['\\', c] else [c]) ++ escapeBraces cs := rfl

theorem head?_escapeBraces (cs : List Char) (closing : Bool) :
    (escapeBraces cs).head? ≠ some (Glyph.brace closing) := by
  cases cs with
  | nil => simp [escapeBraces]
  | cons c cs =>
    rw [escapeBraces_cons]
    split_ifs with hc
    · simpa using (Glyph.brace_ne_backslash closing).symm
    · have hne : c ≠ Glyph.brace closing := fun h => hc (Glyph.eq_brace_iff.1 ⟨closing, h⟩)
      simpa using hne

theorem escapeBraces_ne_nil {cs : List Char} (h : cs ≠ []) : escapeBraces cs ≠ [] := by
  cases cs with
  | nil => exact absurd rfl h
  | cons c cs =>
    rw [escapeBraces_cons]
    split_ifs <;> simp

theorem Mark.ofText_backslash_cons {c : Char} (hc : c = '{' ∨ c = '}') (cs : List Char) :
    Mark.ofText ('\\' :: c :: cs) = .plain c :: Mark.ofText cs := by
  rw [Mark.ofText, if_pos ⟨rfl, hc⟩]

theorem Mark.ofText_cons {c : Char} {cs : List Char}
    (h : c = '\\' → ∀ closing, cs.head? ≠ some (Glyph.brace closing)) :
    Mark.ofText (c :: cs) = Mark.ofChar c :: Mark.ofText cs := by
  rw [← Glyph.map_mark_ofText, Glyph.ofText_cons c cs h, List.map_cons, Glyph.mark_ofChar,
    Glyph.map_mark_ofText]

theorem Mark.ofText_escapeBraces_append {cs rest : List Char}
    (h : EndsInBackslash cs → ∀ closing, rest.head? ≠ some (Glyph.brace closing)) :
    Mark.ofText (escapeBraces cs ++ rest) = cs.map .plain ++ Mark.ofText rest := by
  induction cs with
  | nil => rfl
  | cons c cs ih =>
    have hnext := ih fun hb => h (hb.cons c)
    rw [escapeBraces_cons, List.append_assoc, List.map_cons, List.cons_append]
    split_ifs with hc
    · rw [List.cons_append, List.singleton_append, Mark.ofText_backslash_cons hc, hnext]
    · have hhead : c = '\\' → ∀ closing,
          (escapeBraces cs ++ rest).head? ≠ some (Glyph.brace closing) := by
        intro heq closing
        subst heq
        by_cases hcs : cs = []
        · subst hcs
          exact h (by simp) closing
        · rw [List.head?_append_of_ne_nil _ (escapeBraces_ne_nil hcs)]
          exact head?_escapeBraces cs closing
      have hplain : Mark.ofChar c = .plain c := by
        rw [not_or] at hc
        simp [Mark.ofChar, hc]
      rw [List.singleton_append, Mark.ofText_cons hhead, hnext, hplain]

namespace Segment

def IsWritable : Segment → Prop
  | text s => s ≠ ""
  | placeholder p => p.IsWritable

/-- Two texts would be one, and a backslash would take the brace that opens a placeholder. -/
def FitsBefore : Segment → Segment → Prop
  | text _, text _ => False
  | text s, placeholder _ => ¬ EndsInBackslash s.toList
  | placeholder _, _ => True

def write : Segment → List Char
  | text s => escapeBraces s.toList
  | placeholder p => '{' :: (escapeBraces p.body ++ ['}'])

def marks : Segment → List Mark
  | text s => s.toList.map .plain
  | placeholder p => .opening :: (p.body.map .plain ++ [.closing])

end Segment

namespace Template

structure IsWritable (segs : List Segment) : Prop where
  segment : ∀ s ∈ segs, s.IsWritable
  fits : segs.IsChain Segment.FitsBefore

def write (segs : List Segment) : String := String.ofList (segs.flatMap Segment.write)

theorem isWritable_nil : IsWritable [] := ⟨by simp, .nil⟩

theorem IsWritable.tail {s : Segment} {segs : List Segment} (h : IsWritable (s :: segs)) :
    IsWritable segs :=
  ⟨fun r hr => h.segment r (List.mem_cons_of_mem s hr), h.fits.tail⟩

theorem IsWritable.cons {s : Segment} {segs : List Segment} (h : IsWritable segs)
    (hs : s.IsWritable) (hfits : ∀ r ∈ segs.head?, s.FitsBefore r) : IsWritable (s :: segs) := by
  refine ⟨?_, List.isChain_cons.2 ⟨hfits, h.fits⟩⟩
  intro r hr
  rcases List.mem_cons.1 hr with rfl | hr
  · exact hs
  · exact h.segment r hr

theorem ofText_write_placeholder {p : Placeholder} (h : p.IsWritable) (rest : List Char) :
    Mark.ofText ((Segment.placeholder p).write ++ rest) =
      (Segment.placeholder p).marks ++ Mark.ofText rest := by
  have hbody : Mark.ofText (escapeBraces p.body ++ '}' :: rest) =
      p.body.map .plain ++ Mark.ofText ('}' :: rest) :=
    Mark.ofText_escapeBraces_append fun hb => absurd hb (Placeholder.not_endsInBackslash_body h)
  have hopen : Mark.ofText ('{' :: (escapeBraces p.body ++ '}' :: rest)) =
      .opening :: Mark.ofText (escapeBraces p.body ++ '}' :: rest) :=
    Mark.ofText_cons fun hc => absurd hc (by decide)
  have hclose : Mark.ofText ('}' :: rest) = .closing :: Mark.ofText rest :=
    Mark.ofText_cons fun hc => absurd hc (by decide)
  simp [Segment.write, Segment.marks, hopen, hbody, hclose]

theorem ofText_write {segs : List Segment} (h : IsWritable segs) :
    Mark.ofText (segs.flatMap Segment.write) = segs.flatMap Segment.marks := by
  induction segs with
  | nil => rfl
  | cons s segs ih =>
    rw [List.flatMap_cons, List.flatMap_cons, ← ih h.tail]
    cases s with
    | placeholder p =>
      have hp : p.IsWritable := h.segment (.placeholder p) List.mem_cons_self
      exact ofText_write_placeholder hp _
    | text s =>
      refine Mark.ofText_escapeBraces_append ?_
      intro hb closing
      cases segs with
      | nil => simp
      | cons r segs =>
        have hfits := (List.isChain_cons_cons.1 h.fits).1
        cases r with
        | text r => exact absurd hfits id
        | placeholder p => exact absurd hb hfits

theorem scan_marks {t : String} (acc : List Char) {segs : List Segment} (h : IsWritable segs)
    (hacc : acc ≠ [] → ∀ s, segs.head? ≠ some (.text s)) :
    scan t (.outside acc) (segs.flatMap Segment.marks) = .ok (stretch acc.reverse ++ segs) := by
  induction segs generalizing acc with
  | nil => simp [scan, flush_eq_stretch]
  | cons s segs ih =>
    rw [List.flatMap_cons]
    cases s with
    | placeholder p =>
      have hrest : scan t (.outside []) (segs.flatMap Segment.marks) = .ok segs :=
        ih [] h.tail (by simp)
      have hp : p.IsWritable := h.segment (.placeholder p) List.mem_cons_self
      simpa [Segment.marks] using scan_placeholder acc (Placeholder.read_body hp) hrest
    | text s =>
      have hnil : acc = [] := by
        by_contra hne
        exact hacc hne s rfl
      have hs : s ≠ "" := h.segment (.text s) List.mem_cons_self
      have hnext : ∀ r, segs.head? ≠ some (.text r) := by
        intro r hr
        exact (List.isChain_cons.1 h.fits).1 _ hr
      subst hnil
      rw [Segment.marks, scan_outside_plain, ih _ h.tail fun _ => hnext]
      simp [stretch, hs]

theorem split_write {segs : List Segment} (h : IsWritable segs) :
    split (write segs) = .ok segs := by
  have hmarks := ofText_write h
  rw [split, write, String.toList_ofList, hmarks]
  simpa [stretch] using scan_marks [] h (by simp)

theorem isWritable_stretch_append {text : List Char} {segs : List Segment} (h : IsWritable segs)
    (hfits : ∀ r ∈ segs.head?, (Segment.text (String.ofList text)).FitsBefore r) :
    IsWritable (stretch text ++ segs) := by
  unfold stretch
  split_ifs with htext
  · exact h
  · have hne : String.ofList text ≠ "" := by
      intro hs
      exact htext (by simpa using congrArg String.toList hs)
    exact h.cons hne hfits

theorem not_endsInBackslash_of_isChain {w : List Char} {m : Mark} {ms : List Mark}
    (h : (w.map Mark.plain ++ m :: ms).IsChain Mark.Separate) (hm : m = .opening ∨ m = .closing) :
    ¬ EndsInBackslash w := by
  intro hb
  have hlast : (w.map Mark.plain).getLast? = some (.plain '\\') := by
    rw [List.getLast?_map, hb, Option.map_some]
  obtain ⟨ho, hc⟩ := (List.isChain_append.1 h).2.2 _ hlast m (by simp) rfl
  exact hm.elim ho hc

theorem isWritable_of_parts {before : List Char} {parts : List Part}
    (hsep : (before.map Mark.plain ++ parts.flatMap Part.marks).IsChain Mark.Separate)
    (hread : ∀ p ∈ parts, p.IsRead) :
    IsWritable (stretch before ++ parts.flatMap Part.segments) := by
  induction parts generalizing before with
  | nil => exact isWritable_stretch_append isWritable_nil (by simp)
  | cons p parts ih =>
    rw [List.flatMap_cons, Part.marks, List.cons_append] at hsep
    have hinner := (List.isChain_append.1 hsep).2.1.tail
    rw [List.tail_cons, List.append_assoc, List.cons_append] at hinner
    have hrest : IsWritable (stretch p.after ++ parts.flatMap Part.segments) :=
      ih (List.isChain_append.1 hinner).2.1.tail fun q hq => hread q (by simp [hq])
    have hbody : ¬ EndsInBackslash p.body :=
      not_endsInBackslash_of_isChain hinner (Or.inr rfl)
    have hp : p.placeholder.IsWritable := Placeholder.isWritable_of_read hbody (hread p (by simp))
    have hsegs : IsWritable (.placeholder p.placeholder ::
        (stretch p.after ++ parts.flatMap Part.segments)) :=
      hrest.cons hp fun _ _ => trivial
    refine isWritable_stretch_append hsegs ?_
    intro r hr
    obtain rfl : r = .placeholder p.placeholder := by
      simpa [Part.segments, eq_comm] using hr
    have hbefore : ¬ EndsInBackslash before := not_endsInBackslash_of_isChain hsep (Or.inl rfl)
    simpa [Segment.FitsBefore] using hbefore

theorem isWritable_of_split {t : String} {segs : List Segment} (h : split t = .ok segs) :
    IsWritable segs := by
  have hsep := Mark.separate_ofText t.toList
  obtain ⟨before, parts, hms, hread, rfl⟩ := scan_eq_ok.1 h
  rw [hms] at hsep
  exact isWritable_of_parts hsep hread

/-- The image of `split` is exactly the writable segments, and `write` finds a template for them. -/
theorem exists_split_iff_isWritable (segs : List Segment) :
    ((∃ t, split t = .ok segs) ↔ IsWritable segs) ∧
      (split (write segs) = .ok segs ↔ IsWritable segs) := by
  constructor
  · constructor
    · intro h
      obtain ⟨t, h⟩ := h
      exact isWritable_of_split h
    · exact fun h => ⟨write segs, split_write h⟩
  · exact ⟨isWritable_of_split, split_write⟩

end Template
end StatusLine
