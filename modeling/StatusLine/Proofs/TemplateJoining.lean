import StatusLine.Proofs.TemplateWriting
import StatusLine.Render

/-!
# Templates one after another

A template that is accepted leaves the scan outside placeholders, with nothing pending but text. So
what follows is cut as if it stood alone, except that a text at the seam is one text: `glue` puts
the two lists of segments together. Only a backslash at the end of the first template could reach
across the seam, and only to a brace. Where the second template is at fault both are, and the fault
is of the same kind; it names the whole template.
-/
namespace StatusLine
open Escaped

/-- Segments one after another, two texts at the seam being one. -/
def Segment.glue : List Segment → List Segment → List Segment
  | [.text s], .text s' :: segs => .text (s ++ s') :: segs
  | [], segs => segs
  | s :: rest, segs => s :: glue rest segs

theorem Segment.glue_append {rest : List Segment} (h : rest ≠ []) (segs segs' : List Segment) :
    glue (segs ++ rest) segs' = segs ++ glue rest segs' := by
  induction segs with
  | nil => rfl
  | cons s segs ih =>
    have hne : segs ++ rest ≠ [] := by simp [h]
    rw [List.cons_append, glue, ih, List.cons_append]
    intro _ _ _ _ _ hnil
    exact hne hnil

/-- The same result, or faults with the same code and scope. -/
def Fault.Alike {α : Type} : Except Fault α → Except Fault α → Prop
  | .ok a, .ok b => a = b
  | .error f, .error g => f.report.code = g.report.code ∧ f.report.scope = g.report.scope
  | _, _ => False

namespace Fault.Alike
variable {α β : Type} {x y : Except Fault α}

theorem refl (x : Except Fault α) : Alike x x := by
  cases x with
  | ok a => rfl
  | error f => exact ⟨rfl, rfl⟩

theorem bind {f g : α → Except Fault β} (h : Alike x y) (hfg : ∀ a, Alike (f a) (g a)) :
    Alike (x >>= f) (y >>= g) := by
  cases x with
  | ok a =>
    cases y with
    | ok b =>
      obtain rfl : a = b := h
      exact hfg a
    | error e => exact h.elim
  | error e =>
    cases y with
    | ok b => exact h.elim
    | error e' => exact h

theorem map (f : α → β) (h : Alike x y) : Alike (f <$> x) (f <$> y) := by
  cases x <;> cases y <;> simp_all [Alike, Functor.map, Except.map]

theorem eq_ok {a : α} (h : Alike x (.ok a)) : x = .ok a := by
  cases x with
  | ok b => exact congrArg Except.ok h
  | error f => exact h.elim

theorem exists_error {g : Fault} (h : Alike x (.error g)) :
    ∃ f, x = .error f ∧ f.report.code = g.report.code ∧ f.report.scope = g.report.scope := by
  cases x with
  | ok b => exact h.elim
  | error f => exact ⟨f, rfl, h⟩

end Fault.Alike

namespace Mark

theorem ofText_append {cs ds : List Char}
    (h : EndsInBackslash cs → ∀ closing, ds.head? ≠ some (Glyph.brace closing)) :
    ofText (cs ++ ds) = ofText cs ++ ofText ds := by
  fun_induction ofText cs with
  | case1 => rfl
  | case2 c => exact ofText_cons fun hc => h (by simp [hc])
  | case3 a b cs hb ih =>
    have hrest := ih fun hcs => h ((hcs.cons b).cons a)
    simp only [List.cons_append, ofText, if_pos hb, hrest]
  | case4 a b cs hb ih =>
    have hrest := ih fun hcs => h (hcs.cons a)
    simp only [List.cons_append] at hrest ⊢
    rw [ofText, if_neg hb, hrest]

end Mark

namespace Template

theorem glue_flush (pre text : List Char) (segs : List Segment)
    (h : ∀ s, segs.head? ≠ some (.text s)) :
    Segment.glue (flush text) (flush pre ++ segs) = flush (pre ++ text) ++ segs := by
  cases text with
  | nil => simp [flush, Segment.glue]
  | cons c text =>
    cases pre with
    | cons d pre => simp [flush, Segment.glue, ← String.toList_inj]
    | nil =>
      cases segs with
      | nil => simp [flush, Segment.glue]
      | cons seg segs =>
        cases seg with
        | text s => exact absurd rfl (h s)
        | placeholder p => simp [flush, Segment.glue]

theorem head?_of_scan_inside {t : String} {body : List Char} {ms : List Mark}
    {segs : List Segment} (h : scan t (.inside body) ms = .ok segs) :
    ∃ p rest, segs = .placeholder p :: rest := by
  obtain ⟨_, p, _, rest, -, -, -, rfl⟩ := finds_of_scan h
  exact ⟨p, rest, rfl⟩

theorem scan_pending (t : String) (pre text : List Char) (ms : List Mark) :
    scan t (.outside (pre ++ text)) ms =
      Segment.glue (flush text) <$> scan t (.outside pre) ms := by
  induction ms generalizing pre with
  | nil =>
    have hglue := glue_flush pre text [] (by simp)
    simp only [List.append_nil] at hglue
    simp [scan, hglue]
  | cons m ms ih =>
    cases m with
    | plain c => exact ih (c :: pre)
    | closing => rfl
    | opening =>
      simp only [scan]
      cases hscan : scan t (.inside []) ms with
      | error f => rfl
      | ok segs =>
        obtain ⟨p, rest, rfl⟩ := head?_of_scan_inside hscan
        have hglue := glue_flush pre text (.placeholder p :: rest) (by simp)
        simp [hglue]

theorem scan_append {t : String} {st : State} {ms : List Mark} {segs : List Segment}
    (h : scan t st ms = .ok segs) (ns : List Mark) :
    scan t st (ms ++ ns) = Segment.glue segs <$> scan t (.outside []) ns := by
  fun_induction scan t st ms generalizing segs with
  | case1 text =>
    obtain rfl := Except.ok.inj h
    exact scan_pending t [] text ns
  | case2 => simp at h
  | case3 text c ms ih => exact ih h
  | case4 body c ms ih => exact ih h
  | case5 text ms ih =>
    obtain ⟨found, hfound, hsegs⟩ := bind_eq_ok.1 h
    obtain rfl := Except.ok.inj hsegs
    obtain ⟨p, rest, rfl⟩ := head?_of_scan_inside hfound
    rw [List.cons_append, scan, ih hfound]
    cases scan t (.outside []) ns with
    | error f => rfl
    | ok segs' => simp [Segment.glue_append]
  | case6 => simp at h
  | case7 => simp at h
  | case8 body ms ih =>
    obtain ⟨p, hp, h⟩ := bind_eq_ok.1 h
    obtain ⟨found, hfound, hsegs⟩ := bind_eq_ok.1 h
    obtain rfl := Except.ok.inj hsegs
    rw [List.cons_append, scan, hp, ok_bind, ih hfound]
    cases scan t (.outside []) ns with
    | error f => rfl
    | ok segs' => simp [Segment.glue]

/-- Which template a fault names is all that the name of the template decides. -/
theorem scan_alike (t u : String) (st : State) (ms : List Mark) :
    Fault.Alike (scan t st ms) (scan u st ms) := by
  fun_induction scan t st ms with
  | case1 text => exact .refl _
  | case2 body => exact ⟨rfl, rfl⟩
  | case3 text c ms ih => exact ih
  | case4 body c ms ih => exact ih
  | case5 text ms ih => exact ih.map _
  | case6 => exact ⟨rfl, rfl⟩
  | case7 => exact ⟨rfl, rfl⟩
  | case8 body ms ih => exact (Fault.Alike.refl _).bind fun p => ih.map _

theorem split_append_alike {t u : String} {segs : List Segment} (ht : split t = .ok segs)
    (hseam : EndsInBackslash t.toList → ∀ closing, u.toList.head? ≠ some (Glyph.brace closing)) :
    Fault.Alike (split (t ++ u)) (Segment.glue segs <$> split u) := by
  have hmarks : Mark.ofText (t ++ u).toList = Mark.ofText t.toList ++ Mark.ofText u.toList := by
    rw [String.toList_append, Mark.ofText_append hseam]
  have hwhole : scan (t ++ u) (.outside []) (Mark.ofText t.toList) = .ok segs :=
    scan_eq_ok.2 (scan_eq_ok.1 ht)
  rw [split, hmarks, scan_append hwhole, split]
  exact (scan_alike (t ++ u) u (.outside []) (Mark.ofText u.toList)).map _

theorem renderSegments_cons (env : Environment) (s : Segment) (segs : List Segment) :
    renderSegments env (s :: segs) = do
      return (← s.render env) ++ (← renderSegments env segs) := by
  rw [renderSegments, renderSegments, List.mapM_cons]
  cases s.render env with
  | error f => rfl
  | ok value =>
    cases segs.mapM (Segment.render env) with
    | error f => rfl
    | ok values => simp [Functor.map, Except.map]

theorem renderSegments_glue (env : Environment) (segs segs' : List Segment) :
    renderSegments env (Segment.glue segs segs') = do
      return (← renderSegments env segs) ++ (← renderSegments env segs') := by
  fun_induction Segment.glue segs segs' with
  | case1 s s' segs =>
    simp only [renderSegments_cons]
    cases renderSegments env segs with
    | error f => rfl
    | ok value => simp [Segment.render, renderSegments, String.append_assoc]
  | case2 segs =>
    cases renderSegments env segs <;> simp [renderSegments]
  | case3 s rest segs hs ih =>
    rw [renderSegments_cons, renderSegments_cons, ih]
    cases s.render env with
    | error f => rfl
    | ok value =>
      cases renderSegments env rest with
      | error f => rfl
      | ok text => cases renderSegments env segs <;> simp [String.append_assoc]

theorem render_of_split_eq {t : String} {segs : List Segment} (h : split t = .ok segs)
    (env : Environment) : render env t = renderSegments env segs := by
  rw [render, h, ok_bind]

/-- Templates compose. Behind a template that is accepted another one is cut as it is cut alone, as
long as no backslash at the seam takes a brace of the second: its segments follow, or its fault is
reported with the same code and scope. The text of both in one is the text of the first and then the
text of the second, and so is the first fault in rendering. -/
theorem split_append {t u : String} {segs : List Segment} (ht : split t = .ok segs)
    (hseam : ¬ (EndsInBackslash t.toList ∧
      ∃ closing, u.toList.head? = some (Glyph.brace closing))) :
    ((∃ all, split (t ++ u) = .ok all) ↔ ∃ segs', split u = .ok segs') ∧
    (∀ segs', split u = .ok segs' →
      split (t ++ u) = .ok (Segment.glue segs segs') ∧
        ∀ env, render env (t ++ u) = do return (← render env t) ++ (← render env u)) ∧
    (∀ f, split u = .error f → ∃ g, split (t ++ u) = .error g ∧
      g.report.code = f.report.code ∧ g.report.scope = f.report.scope) := by
  have halike := split_append_alike ht fun hb closing hu => hseam ⟨hb, closing, hu⟩
  cases hu : split u with
  | ok segs' =>
    have hall : split (t ++ u) = .ok (Segment.glue segs segs') := by
      rw [hu] at halike
      exact halike.eq_ok
    refine ⟨by simp [hall], ?_, by simp⟩
    intro segs'' h
    obtain rfl := Except.ok.inj h
    refine ⟨hall, fun env => ?_⟩
    rw [render_of_split_eq hall, render_of_split_eq ht, render_of_split_eq hu, renderSegments_glue]
  | error f =>
    rw [hu] at halike
    obtain ⟨g, hg, hkind⟩ := halike.exists_error
    refine ⟨by simp [hg], by simp, ?_⟩
    intro f' h
    obtain rfl := Except.error.inj h
    exact ⟨g, hg, hkind⟩

theorem split_append_backslash :
    let t := "\x7bg?branch\x7d on \\"
    let u := "host \x7bt\x7d"
    (split t = .ok [.placeholder (.git .branch), .text " on \\"] ∧
      ¬ (EndsInBackslash t.toList ∧ ∃ closing, u.toList.head? = some (Glyph.brace closing))) ∧
    split u = .ok [.text "host ", .placeholder (.time .empty)] ∧
    split (t ++ u) =
      .ok [.placeholder (.git .branch), .text " on \\host ", .placeholder (.time .empty)] := by
  intro t u
  have ht : split t = .ok [.placeholder (.git .branch), .text " on \\"] := by decide
  have hu : split u = .ok [.text "host ", .placeholder (.time .empty)] := by decide
  have hseam : ¬ (EndsInBackslash t.toList ∧
      ∃ closing, u.toList.head? = some (Glyph.brace closing)) := by decide
  exact ⟨⟨ht, hseam⟩, hu, ((split_append ht hseam).2.1 _ hu).1⟩

end Template
end StatusLine
