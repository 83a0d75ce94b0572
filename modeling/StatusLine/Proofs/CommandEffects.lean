import StatusLine.Proofs.Atomicity
import StatusLine.Proofs.Storage

/-!
# What a command does to the two files

Each command is taken apart once: when it succeeds and which files it leaves then. What a success
leaves is told by loading the files before and after. A command that fails leaves what was there,
since it is atomic; only the recording of a used status may fail without the command.
-/
namespace StatusLine

namespace Files

def withConfiguration (fs : Files) (c : Configuration) : Files :=
  { fs with configuration := .ofBytes c.write.toUTF8 }

def withHistory (fs : Files) (h : History) : Files :=
  { fs with history := .ofBytes h.write.toUTF8 }

end Files

namespace Configuration

theorem template_eq_ok {c : Configuration} {index : Nat} {t : StatusTemplate} :
    c.template index = .ok t ↔ 0 < index ∧ c.templates[index - 1]? = some t := by
  cases index with
  | zero => simp [template]
  | succ i => cases ht : c.templates[i]? <;> simp [template, ht]

theorem exists_split_of_template {c : Configuration} {index : Nat} {t : StatusTemplate}
    (h : c.template index = .ok t) :
    ∃ earlier later, c.templates = earlier ++ t :: later ∧ index = earlier.length + 1 ∧
      c.templates.eraseIdx (index - 1) = earlier ++ later := by
  obtain ⟨hpos, hget⟩ := template_eq_ok.1 h
  obtain ⟨hlt, rfl⟩ := List.getElem?_eq_some_iff.1 hget
  refine ⟨c.templates.take (index - 1), c.templates.drop (index - 1 + 1), ?_, ?_,
    List.eraseIdx_eq_take_drop_succ ..⟩
  · rw [← List.drop_eq_getElem_cons hlt, List.take_append_drop]
  · rw [List.length_take]
    omega

theorem remove_eq_ok {c : Configuration} {index : Nat} {r : StatusTemplate × Configuration} :
    c.remove index = .ok r ↔ c.template index = .ok r.1 ∧
      r.2 = { c with templates := c.templates.eraseIdx (index - 1) } := by
  obtain ⟨t, c'⟩ := r
  simp only [remove, bind_eq_ok, pure_eq_ok, Except.ok.injEq, Prod.mk.injEq]
  constructor
  · intro h
    obtain ⟨t', ht, rfl, rfl⟩ := h
    exact ⟨ht, rfl⟩
  · intro h
    exact ⟨t, h.1, rfl, h.2.symm⟩

end Configuration

namespace Surroundings
variable {w : Surroundings} {fs fs' : Files}

theorem saveConfiguration_eq_ok {c₀ c : Configuration} (h : w.loadConfiguration fs = .ok c₀) :
    (w.saveConfiguration c).run fs = (.ok (), fs') ↔
      fs.configuration.refusal = none ∧ fs' = fs.withConfiguration c := by
  obtain ⟨path, hpath, -⟩ := bind_eq_ok.1 h
  simp only [saveConfiguration, hpath, Job.run_ok_bind, Job.run_get_bind, Job.run_lift_bind_eq_ok,
    Configuration.save_eq_ok, Job.run_set, Prod.mk.injEq, true_and]
  constructor
  · intro h
    obtain ⟨f, ⟨hrefusal, rfl⟩, rfl⟩ := h
    exact ⟨hrefusal, rfl⟩
  · intro h
    exact ⟨_, ⟨h.1, rfl⟩, h.2.symm⟩

theorem loadConfiguration_withConfiguration {c₀ : Configuration}
    (h : w.loadConfiguration fs = .ok c₀) (c : Configuration) :
    w.loadConfiguration (fs.withConfiguration c) = .ok c := by
  obtain ⟨path, hpath, -⟩ := bind_eq_ok.1 h
  simp only [loadConfiguration, hpath, ok_bind, Files.withConfiguration,
    Configuration.load_ofBytes_write]

theorem saveHistory_eq_ok {h₀ h : History} (hload : w.loadHistory fs = .ok h₀) :
    (w.saveHistory h).run fs = (.ok (), fs') ↔
      fs.history.refusal = none ∧ fs' = fs.withHistory h := by
  obtain ⟨path, hpath, -⟩ := bind_eq_ok.1 hload
  simp only [saveHistory, hpath, Job.run_ok_bind, Job.run_get_bind, Job.run_lift_bind_eq_ok,
    History.save_eq_ok, Job.run_set, Prod.mk.injEq, true_and]
  constructor
  · intro h
    obtain ⟨f, ⟨hrefusal, rfl⟩, rfl⟩ := h
    exact ⟨hrefusal, rfl⟩
  · intro h
    exact ⟨_, ⟨h.1, rfl⟩, h.2.symm⟩

theorem loadHistory_withHistory {h₀ : History} (hload : w.loadHistory fs = .ok h₀) (h : History) :
    w.loadHistory (fs.withHistory h) = .ok h := by
  obtain ⟨path, hpath, -⟩ := bind_eq_ok.1 hload
  simp only [loadHistory, hpath, ok_bind, Files.withHistory, History.load_ofBytes_write]

theorem record_eq_ok {s : Status} {limit : Nat} :
    (w.record s limit).run fs = (.ok (), fs') ↔ ∃ h, w.loadHistory fs = .ok h ∧
      fs.history.refusal = none ∧ fs' = fs.withHistory (h.record s w.clock.now limit) := by
  rw [record, Job.run_get_bind, Job.run_lift_bind_eq_ok]
  refine exists_congr fun h => and_congr_right fun hload => ?_
  exact saveHistory_eq_ok hload

def afterUse (w : Surroundings) (fs : Files) (s : Status) (limit : UInt64) : Files :=
  ((w.recordUse s limit).run fs).2

theorem run_recordUse (s : Status) (limit : UInt64) :
    (w.recordUse s limit).run fs = (.ok (), w.afterUse fs s limit) := by
  unfold afterUse recordUse
  split
  · rfl
  · rw [Job.run_attempt]

theorem afterUse_zero (s : Status) : w.afterUse fs s 0 = fs := rfl

theorem afterUse_of_load {h : History} {s : Status} {limit : UInt64} (hlimit : limit ≠ 0)
    (hload : w.loadHistory fs = .ok h) (hrefusal : fs.history.refusal = none) :
    w.afterUse fs s limit = fs.withHistory (h.record s w.clock.now limit.toNat) := by
  rw [afterUse, recordUse, if_neg hlimit, Job.run_attempt,
    record_eq_ok.2 ⟨h, hload, hrefusal, rfl⟩]

theorem afterUse_cases (w : Surroundings) (fs : Files) (s : Status) (limit : UInt64) :
    (w.afterUse fs s limit = fs ∧
      (limit = 0 ∨ fs.history.refusal ≠ none ∨ ∀ h, w.loadHistory fs ≠ .ok h)) ∨
    ∃ h, w.afterUse fs s limit = fs.withHistory (h.record s w.clock.now limit.toNat) ∧
      limit ≠ 0 ∧ w.loadHistory fs = .ok h ∧ fs.history.refusal = none := by
  by_cases hlimit : limit = 0
  · subst hlimit
    exact .inl ⟨afterUse_zero s, .inl rfl⟩
  rcases hrecord : (w.record s limit.toNat).run fs with ⟨fault | u, fs'⟩
  · refine .inl ⟨?_, .inr ?_⟩
    · rw [afterUse, recordUse, if_neg hlimit, Job.run_attempt, hrecord]
      exact w.isAtomic_record s limit.toNat fs fault fs' hrecord
    · by_contra hnone
      rw [not_or, not_not, not_forall] at hnone
      obtain ⟨hrefusal, h, hload⟩ := hnone
      rw [record_eq_ok.2 ⟨h, not_not.1 hload, hrefusal, rfl⟩] at hrecord
      simp at hrecord
  · obtain ⟨h, hload, hrefusal, -⟩ := record_eq_ok.1 hrecord
    exact .inr ⟨h, afterUse_of_load hlimit hload hrefusal, hlimit, hload, hrefusal⟩

/-- A used status comes to the front of the history, if there is room for it and the history can be
loaded and written. -/
inductive Recorded (w : Surroundings) (fs : Files) (s : Status) (limit : Nat) : Files → Prop
  | kept (h : limit = 0 ∨ fs.history.refusal ≠ none ∨ ∀ h, w.loadHistory fs ≠ .ok h) :
    Recorded w fs s limit fs
  | recorded {h : History} {fs' : Files} (hlimit : 0 < limit) (hload : w.loadHistory fs = .ok h)
    (hrefusal : fs.history.refusal = none) (hafter : w.loadHistory fs' =
      .ok ⟨(⟨s, w.clock.now⟩ :: h.entries.filter (·.status != s)).take limit⟩) :
    Recorded w fs s limit fs'

theorem recorded_afterUse (w : Surroundings) (fs : Files) (s : Status) (limit : UInt64) :
    Recorded w fs s limit.toNat (w.afterUse fs s limit) := by
  rcases afterUse_cases w fs s limit with ⟨hleft, hkept⟩ | ⟨h, hleft, hlimit, hload, hrefusal⟩
  · rw [hleft]
    exact .kept (hkept.imp_left fun hzero => by rw [hzero]; rfl)
  · have hpos : 0 < limit.toNat :=
      Nat.pos_of_ne_zero fun hzero => hlimit (UInt64.toNat_inj.1 hzero)
    rw [hleft]
    exact .recorded hpos hload hrefusal (loadHistory_withHistory hload _)

end Surroundings

namespace Command
variable {w : Surroundings} {fs fs' : Files}

/-- The command succeeds, whatever it prints, and leaves the files. -/
def Yields (w : Surroundings) (fs : Files) (c : Command) (fs' : Files) : Prop :=
  ∃ text, (c.perform w).run fs = (.ok text, fs')

theorem yields_render {template : String} :
    (render template).Yields w fs fs' ↔
      (∃ c text, w.loadConfiguration fs = .ok c ∧ w.render c template = .ok text) ∧ fs' = fs := by
  simp only [Yields, perform, Job.run_get_bind, Job.run_lift_bind_eq_ok, Job.run_pure,
    Prod.mk.injEq, Except.ok.injEq]
  constructor
  · intro h
    obtain ⟨_, c, hc, text, ht, -, rfl⟩ := h
    exact ⟨⟨c, text, hc, ht⟩, rfl⟩
  · intro h
    obtain ⟨⟨c, text, hc, ht⟩, rfl⟩ := h
    exact ⟨_, c, hc, text, ht, rfl, rfl⟩

theorem yields_parse {template : String} :
    (parse template).Yields w fs fs' ↔
      (∃ segments, Template.split template = .ok segments) ∧ fs' = fs := by
  simp only [Yields, perform, Job.run_lift_bind_eq_ok, Job.run_pure, Prod.mk.injEq,
    Except.ok.injEq]
  constructor
  · intro h
    obtain ⟨_, segments, hs, -, rfl⟩ := h
    exact ⟨⟨segments, hs⟩, rfl⟩
  · intro h
    obtain ⟨⟨segments, hs⟩, rfl⟩ := h
    exact ⟨_, segments, hs, rfl, rfl⟩

theorem listing_eq_ok {coloured : Bool} {title text : String} {nothing : Fault}
    {lines : List String} : listing coloured title nothing lines = .ok text ↔
      lines ≠ [] ∧ Console.heading coloured title ++ Console.numbered coloured lines = text := by
  cases lines <;> simp [listing]

theorem exists_run_listing {α : Type} {load : Except Fault α} {lines : α → List String}
    {coloured : Bool} {title : String} {nothing : Fault} :
    (∃ text, ((liftM load : Job α) >>= fun a =>
        liftM (listing coloured title nothing (lines a))).run fs = (.ok text, fs')) ↔
      (∃ a, load = .ok a ∧ lines a ≠ []) ∧ fs' = fs := by
  simp only [Job.run_lift_bind_eq_ok, Job.run_lift, Prod.mk.injEq, listing_eq_ok]
  constructor
  · intro h
    obtain ⟨_, a, ha, ⟨hlines, -⟩, rfl⟩ := h
    exact ⟨⟨a, ha, hlines⟩, rfl⟩
  · intro h
    obtain ⟨⟨a, ha, hlines⟩, rfl⟩ := h
    exact ⟨_, a, ha, ⟨hlines, rfl⟩, rfl⟩

theorem yields_listTemplates :
    listTemplates.Yields w fs fs' ↔
      (∃ c, w.loadConfiguration fs = .ok c ∧ c.templates ≠ []) ∧ fs' = fs := by
  simp only [Yields, perform, Job.run_get_bind, exists_run_listing, ne_eq, List.map_eq_nil_iff]

theorem yields_bookmarks :
    bookmarks.Yields w fs fs' ↔
      (∃ c, w.loadConfiguration fs = .ok c ∧ c.bookmarks ≠ []) ∧ fs' = fs := by
  simp only [Yields, perform, Job.run_get_bind, exists_run_listing, ne_eq, List.map_eq_nil_iff]

theorem yields_listHistory :
    (history false).Yields w fs fs' ↔
      (∃ h, w.loadHistory fs = .ok h ∧ h.entries ≠ []) ∧ fs' = fs := by
  simp only [Yields, perform, Job.run_get_bind, exists_run_listing, ne_eq, List.map_eq_nil_iff]

theorem yields_addTemplate {label message : String} {availability : Availability} :
    (addTemplate label message availability).Yields w fs fs' ↔
      (∃ segments, Template.split message = .ok segments) ∧ ∃ c, w.loadConfiguration fs = .ok c ∧
        fs.configuration.refusal = none ∧
        fs' = fs.withConfiguration (c.add ⟨label, message, availability⟩) := by
  simp only [Yields, perform, Job.run_lift_bind_eq_ok, Job.run_get_bind, Job.run_bind_pure_eq_ok]
  constructor
  · intro h
    obtain ⟨_, segments, hs, c, hc, hsave, -⟩ := h
    exact ⟨⟨segments, hs⟩, c, hc, (Surroundings.saveConfiguration_eq_ok hc).1 hsave⟩
  · intro h
    obtain ⟨⟨segments, hs⟩, c, hc, hsave⟩ := h
    exact ⟨_, segments, hs, c, hc, (Surroundings.saveConfiguration_eq_ok hc).2 hsave, rfl⟩

theorem yields_removeTemplate {index : Nat} :
    (removeTemplate index).Yields w fs fs' ↔
      ∃ c t, w.loadConfiguration fs = .ok c ∧ c.template index = .ok t ∧
        fs.configuration.refusal = none ∧
        fs' = fs.withConfiguration { c with templates := c.templates.eraseIdx (index - 1) } := by
  simp only [Yields, perform, Job.run_get_bind, Job.run_lift_bind_eq_ok, Job.run_bind_pure_eq_ok]
  constructor
  · intro h
    obtain ⟨_, c, hc, ⟨t, c'⟩, hremove, hsave, -⟩ := h
    obtain ⟨ht, rfl⟩ := Configuration.remove_eq_ok.1 hremove
    exact ⟨c, t, hc, ht, (Surroundings.saveConfiguration_eq_ok hc).1 hsave⟩
  · intro h
    obtain ⟨c, t, hc, ht, hsave⟩ := h
    exact ⟨_, c, hc, (t, _), Configuration.remove_eq_ok.2 ⟨ht, rfl⟩,
      (Surroundings.saveConfiguration_eq_ok hc).2 hsave, rfl⟩

theorem yields_bookmark :
    bookmark.Yields w fs fs' ↔
      ∃ h e c, w.loadHistory fs = .ok h ∧ h.entries.head? = some e ∧
        w.loadConfiguration fs = .ok c ∧
        (e.status ∈ c.bookmarks ∧ fs' = fs ∨
          e.status ∉ c.bookmarks ∧ fs.configuration.refusal = none ∧
            fs' = fs.withConfiguration { c with bookmarks := c.bookmarks ++ [e.status] }) := by
  simp only [Yields, perform, Job.run_get_bind, Job.run_lift_bind_eq_ok]
  constructor
  · intro h
    obtain ⟨_, h, hh, hperform⟩ := h
    cases he : h.latest? with
    | none => simp [he] at hperform
    | some e =>
      simp only [he, Job.run_get_bind, Job.run_lift_bind_eq_ok] at hperform
      obtain ⟨c, hc, hperform⟩ := hperform
      refine ⟨h, e, c, hh, he, hc, ?_⟩
      by_cases hmem : e.status ∈ c.bookmarks
      · simp only [Configuration.bookmark?, if_pos hmem, Job.run_pure, Prod.mk.injEq] at hperform
        exact .inl ⟨hmem, hperform.2.symm⟩
      · simp only [Configuration.bookmark?, if_neg hmem, Job.run_bind_pure_eq_ok] at hperform
        exact .inr ⟨hmem, (Surroundings.saveConfiguration_eq_ok hc).1 hperform.1⟩
  · intro h
    obtain ⟨h, e, c, hh, he, hc, hleft⟩ := h
    have hlatest : h.latest? = some e := he
    rcases hleft with ⟨hmem, rfl⟩ | ⟨hmem, hsave⟩
    · refine ⟨Console.note w.coloured ("Already bookmarked: " ++ e.status.display), h, hh, ?_⟩
      simp only [hlatest, Job.run_get_bind, hc, Job.run_ok_bind, Configuration.bookmark?,
        if_pos hmem, Job.run_pure]
    · refine ⟨Console.success w.coloured ("Bookmarked: " ++ e.status.display), h, hh, ?_⟩
      simp only [hlatest, Job.run_get_bind, hc, Job.run_ok_bind, Configuration.bookmark?,
        if_neg hmem, Job.run_bind_pure_eq_ok, and_true]
      exact (Surroundings.saveConfiguration_eq_ok hc).2 hsave

theorem yields_clearHistory :
    (history true).Yields w fs fs' ↔
      (∃ h, w.loadHistory fs = .ok h) ∧ fs.history.refusal = none ∧
        fs' = fs.withHistory History.empty := by
  simp only [Yields, perform, Job.run_get_bind, Job.run_lift_bind_eq_ok, Job.run_bind_pure_eq_ok]
  constructor
  · intro h
    obtain ⟨_, h, hh, hsave, -⟩ := h
    exact ⟨⟨h, hh⟩, (Surroundings.saveHistory_eq_ok hh).1 hsave⟩
  · intro h
    obtain ⟨⟨h, hh⟩, hsave⟩ := h
    exact ⟨_, h, hh, (Surroundings.saveHistory_eq_ok hh).2 hsave, rfl⟩

theorem perform_use_eq_ok {index : Nat} {text : String} :
    ((use index).perform w).run fs = (.ok text, fs') ↔
      ∃ c t message, w.loadConfiguration fs = .ok c ∧ c.template index = .ok t ∧
        w.render c t.message = .ok message ∧
        text = Status.display ⟨t.availability, message⟩ ++ "\n" ∧
        fs' = w.afterUse fs ⟨t.availability, message⟩ c.historyLimit := by
  simp only [perform, Job.run_get_bind, Job.run_lift_bind_eq_ok, Job.run_bind_pure_eq_ok,
    Surroundings.run_recordUse, Prod.mk.injEq, true_and]
  constructor
  · intro h
    obtain ⟨c, hc, t, ht, message, hm, rfl, rfl⟩ := h
    exact ⟨c, t, message, hc, ht, hm, rfl, rfl⟩
  · intro h
    obtain ⟨c, t, message, hc, ht, hm, rfl, rfl⟩ := h
    exact ⟨c, hc, t, ht, message, hm, rfl, rfl⟩

def Succeeds (w : Surroundings) (fs : Files) : Command → Prop
  | render template => ∃ c text, w.loadConfiguration fs = .ok c ∧ w.render c template = .ok text
  | parse template => ∃ segments, Template.split template = .ok segments
  | listTemplates => ∃ c, w.loadConfiguration fs = .ok c ∧ c.templates ≠ []
  | addTemplate _ message _ => (∃ segments, Template.split message = .ok segments) ∧
      (∃ c, w.loadConfiguration fs = .ok c) ∧ fs.configuration.refusal = none
  | removeTemplate index => ∃ c t, w.loadConfiguration fs = .ok c ∧ 0 < index ∧
      c.templates[index - 1]? = some t ∧ fs.configuration.refusal = none
  | use index => ∃ c t message, w.loadConfiguration fs = .ok c ∧ 0 < index ∧
      c.templates[index - 1]? = some t ∧ w.render c t.message = .ok message
  | history true => (∃ h, w.loadHistory fs = .ok h) ∧ fs.history.refusal = none
  | history false => ∃ h, w.loadHistory fs = .ok h ∧ h.entries ≠ []
  | bookmarks => ∃ c, w.loadConfiguration fs = .ok c ∧ c.bookmarks ≠ []
  | bookmark => ∃ h e c, w.loadHistory fs = .ok h ∧ h.entries.head? = some e ∧
      w.loadConfiguration fs = .ok c ∧ (e.status ∈ c.bookmarks ∨ fs.configuration.refusal = none)

/-- What a command that succeeds leaves, told by what the files hold before and after it. -/
def Leaves (w : Surroundings) (fs : Files) (o : Outcome) : Command → Prop
  | addTemplate label message availability =>
    ∃ c, w.loadConfiguration fs = .ok c ∧ w.loadConfiguration o.files =
      .ok { c with templates := c.templates ++ [⟨label, message, availability⟩] }
  | removeTemplate index =>
    ∃ c earlier t later, w.loadConfiguration fs = .ok c ∧ c.templates = earlier ++ t :: later ∧
      index = earlier.length + 1 ∧
      w.loadConfiguration o.files = .ok { c with templates := earlier ++ later }
  | bookmark =>
    ∃ h e c, w.loadHistory fs = .ok h ∧ h.entries.head? = some e ∧
      w.loadConfiguration fs = .ok c ∧
      (e.status ∈ c.bookmarks ∧ o.files = fs ∨
        e.status ∉ c.bookmarks ∧ w.loadConfiguration o.files =
          .ok { c with bookmarks := c.bookmarks ++ [e.status] })
  | use index =>
    ∃ c t message, w.loadConfiguration fs = .ok c ∧ 0 < index ∧
      c.templates[index - 1]? = some t ∧ w.render c t.message = .ok message ∧
      o.stdout = Status.display ⟨t.availability, message⟩ ++ "\n" ∧
      w.Recorded fs ⟨t.availability, message⟩ c.historyLimit.toNat o.files
  | history true => w.loadHistory o.files = .ok History.empty
  | _ => o.files = fs

def MayChangeConfiguration : Command → Prop
  | addTemplate _ _ _ | removeTemplate _ | bookmark => True
  | _ => False

def MayChangeHistory : Command → Prop
  | use _ | history true => True
  | _ => False

theorem exists_yields {c : Command} : (∃ fs', c.Yields w fs fs') ↔ c.Succeeds w fs := by
  cases c with
  | render template => simp [yields_render, Succeeds]
  | parse template => simp [yields_parse, Succeeds]
  | listTemplates => simp [yields_listTemplates, Succeeds]
  | addTemplate label message availability => simp [yields_addTemplate, Succeeds]
  | removeTemplate index =>
    simp [yields_removeTemplate, Succeeds, Configuration.template_eq_ok, and_assoc]
  | use index =>
    simp only [Yields, perform_use_eq_ok, Succeeds, Configuration.template_eq_ok]
    constructor
    · intro h
      obtain ⟨_, _, c, t, message, hc, ⟨hpos, ht⟩, hm, -, -⟩ := h
      exact ⟨c, t, message, hc, hpos, ht, hm⟩
    · intro h
      obtain ⟨c, t, message, hc, hpos, ht, hm⟩ := h
      exact ⟨_, _, c, t, message, hc, ⟨hpos, ht⟩, hm, rfl, rfl⟩
  | history clear =>
    cases clear with
    | true => simp [yields_clearHistory, Succeeds]
    | false => simp [yields_listHistory, Succeeds]
  | bookmarks => simp [yields_bookmarks, Succeeds]
  | bookmark =>
    simp only [yields_bookmark, Succeeds]
    constructor
    · intro h
      obtain ⟨_, h, e, c, hh, he, hc, ⟨hmem, -⟩ | ⟨-, hrefusal, -⟩⟩ := h
      · exact ⟨h, e, c, hh, he, hc, .inl hmem⟩
      · exact ⟨h, e, c, hh, he, hc, .inr hrefusal⟩
    · intro h
      obtain ⟨h, e, c, hh, he, hc, hleft⟩ := h
      by_cases hmem : e.status ∈ c.bookmarks
      · exact ⟨_, h, e, c, hh, he, hc, .inl ⟨hmem, rfl⟩⟩
      · exact ⟨_, h, e, c, hh, he, hc, .inr ⟨hmem, hleft.resolve_left hmem, rfl⟩⟩

theorem writes_of_yields {c : Command} (h : c.Yields w fs fs') :
    fs' = fs ∨ (c.MayChangeConfiguration ∧ ∃ saved, fs' = fs.withConfiguration saved) ∨
      (c.MayChangeHistory ∧ ∃ saved, fs' = fs.withHistory saved) := by
  cases c with
  | render template => exact .inl (yields_render.1 h).2
  | parse template => exact .inl (yields_parse.1 h).2
  | listTemplates => exact .inl (yields_listTemplates.1 h).2
  | addTemplate label message availability =>
    obtain ⟨-, c, -, -, rfl⟩ := yields_addTemplate.1 h
    exact .inr (.inl ⟨trivial, _, rfl⟩)
  | removeTemplate index =>
    obtain ⟨c, t, -, -, -, rfl⟩ := yields_removeTemplate.1 h
    exact .inr (.inl ⟨trivial, _, rfl⟩)
  | use index =>
    obtain ⟨text, hperform⟩ := h
    obtain ⟨c, t, message, -, -, -, -, rfl⟩ := perform_use_eq_ok.1 hperform
    rcases Surroundings.afterUse_cases w fs ⟨t.availability, message⟩ c.historyLimit with
      ⟨hleft, -⟩ | ⟨recent, hleft, -⟩
    · exact .inl hleft
    · exact .inr (.inr ⟨trivial, _, hleft⟩)
  | history clear =>
    cases clear with
    | true =>
      obtain ⟨-, -, rfl⟩ := yields_clearHistory.1 h
      exact .inr (.inr ⟨trivial, _, rfl⟩)
    | false => exact .inl (yields_listHistory.1 h).2
  | bookmarks => exact .inl (yields_bookmarks.1 h).2
  | bookmark =>
    obtain ⟨recent, e, c, -, -, -, ⟨-, rfl⟩ | ⟨-, -, rfl⟩⟩ := yields_bookmark.1 h
    · exact .inl rfl
    · exact .inr (.inl ⟨trivial, _, rfl⟩)

theorem configuration_of_yields {c : Command} (h : c.Yields w fs fs')
    (hc : ¬ c.MayChangeConfiguration) : fs'.configuration = fs.configuration := by
  rcases writes_of_yields h with rfl | ⟨hmay, -⟩ | ⟨-, saved, rfl⟩
  · rfl
  · exact absurd hmay hc
  · rfl

theorem history_of_yields {c : Command} (h : c.Yields w fs fs') (hc : ¬ c.MayChangeHistory) :
    fs'.history = fs.history := by
  rcases writes_of_yields h with rfl | ⟨-, saved, rfl⟩ | ⟨hmay, -⟩
  · rfl
  · rfl
  · exact absurd hmay hc

theorem leaves_of_perform {c : Command} {text : String}
    (h : (c.perform w).run fs = (.ok text, fs')) : c.Leaves w fs ⟨text, 0, fs'⟩ := by
  have hyields : c.Yields w fs fs' := ⟨text, h⟩
  cases c with
  | render template => exact (yields_render.1 hyields).2
  | parse template => exact (yields_parse.1 hyields).2
  | listTemplates => exact (yields_listTemplates.1 hyields).2
  | addTemplate label message availability =>
    obtain ⟨-, c, hc, -, rfl⟩ := yields_addTemplate.1 hyields
    exact ⟨c, hc, Surroundings.loadConfiguration_withConfiguration hc _⟩
  | removeTemplate index =>
    obtain ⟨c, t, hc, ht, -, rfl⟩ := yields_removeTemplate.1 hyields
    obtain ⟨earlier, later, hsplit, hindex, herase⟩ := Configuration.exists_split_of_template ht
    rw [herase]
    exact ⟨c, earlier, t, later, hc, hsplit, hindex,
      Surroundings.loadConfiguration_withConfiguration hc _⟩
  | use index =>
    obtain ⟨c, t, message, hc, ht, hm, rfl, rfl⟩ := perform_use_eq_ok.1 h
    obtain ⟨hpos, hget⟩ := Configuration.template_eq_ok.1 ht
    exact ⟨c, t, message, hc, hpos, hget, hm, rfl, Surroundings.recorded_afterUse w fs _ _⟩
  | history clear =>
    cases clear with
    | true =>
      obtain ⟨⟨h, hh⟩, -, rfl⟩ := yields_clearHistory.1 hyields
      exact Surroundings.loadHistory_withHistory hh _
    | false => exact (yields_listHistory.1 hyields).2
  | bookmarks => exact (yields_bookmarks.1 hyields).2
  | bookmark =>
    obtain ⟨latest, e, c, hh, he, hc, ⟨hmem, rfl⟩ | ⟨hmem, -, rfl⟩⟩ := yields_bookmark.1 hyields
    · exact ⟨latest, e, c, hh, he, hc, .inl ⟨hmem, rfl⟩⟩
    · exact ⟨latest, e, c, hh, he, hc,
        .inr ⟨hmem, Surroundings.loadConfiguration_withConfiguration hc _⟩⟩

theorem run_of_perform {c : Command} {text : String}
    (h : (c.perform w).run fs = (.ok text, fs')) : c.run w fs = ⟨text, 0, fs'⟩ := by
  rw [run, h]

theorem run_cases (w : Surroundings) (fs : Files) (c : Command) :
    (∃ text fs', (c.perform w).run fs = (.ok text, fs') ∧ c.run w fs = ⟨text, 0, fs'⟩) ∨
      ((∀ fs', ¬ c.Yields w fs fs') ∧ (c.run w fs).exit = 1 ∧ (c.run w fs).files = fs) := by
  rcases h : (c.perform w).run fs with ⟨fault | text, fs'⟩
  · have hfiles : fs' = fs := c.isAtomic_perform w fs fault fs' h
    exact .inr ⟨by simp [Yields, h], by simp [run, h], by simp [run, h, hfiles]⟩
  · exact .inl ⟨text, fs', rfl, run_of_perform h⟩

/-- A command succeeds or changes nothing. It may change one of the two files only, and what it
leaves there when it succeeds follows from what was there. -/
theorem run_is_transition (w : Surroundings) (fs : Files) (c : Command) :
    ((c.run w fs).exit = 0 ∨ (c.run w fs).exit = 1) ∧
    ((c.run w fs).exit = 0 ↔ c.Succeeds w fs) ∧
    ((c.run w fs).exit = 1 → (c.run w fs).files = fs) ∧
    (¬ c.MayChangeConfiguration → (c.run w fs).files.configuration = fs.configuration) ∧
    (¬ c.MayChangeHistory → (c.run w fs).files.history = fs.history) ∧
    ((c.run w fs).exit = 0 → c.Leaves w fs (c.run w fs)) := by
  rcases run_cases w fs c with ⟨text, fs', hperform, hrun⟩ | ⟨hno, hexit, hfiles⟩
  · have hyields : c.Yields w fs fs' := ⟨text, hperform⟩
    rw [hrun]
    refine ⟨.inl rfl, ⟨fun _ => exists_yields.1 ⟨fs', hyields⟩, fun _ => rfl⟩,
      fun h => absurd h Nat.zero_ne_one, configuration_of_yields hyields, history_of_yields hyields,
      fun _ => leaves_of_perform hperform⟩
  · have hfails : ¬ c.Succeeds w fs := by
      rw [← exists_yields, not_exists]
      exact hno
    rw [hexit, hfiles]
    exact ⟨.inr rfl, ⟨fun h => absurd h Nat.one_ne_zero, fun h => absurd h hfails⟩, fun _ => rfl,
      fun _ => rfl, fun _ => rfl, fun h => absurd h Nat.one_ne_zero⟩

end Command
end StatusLine
