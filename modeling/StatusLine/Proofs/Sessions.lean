import StatusLine.Proofs.CommandEffects
import StatusLine.Proofs.FaultScopes
import StatusLine.Proofs.HistoryRuns

/-!
# Sessions

A session is one run of the program after another over the same two files, each from a directory of
its own and with its own repository and clock. Its log has the latest run first. What the files hold
is tied to the log: bookmarks and history have statuses that were printed, and the history only such
as were printed since it was cleared. One run keeps that, whether it succeeds or not, and so does a
session.
-/
namespace StatusLine

/-- The name of an availability ends at the bracket, and no two begin with the same letter. -/
theorem Status.display_injective : Function.Injective display := by
  intro s s' h
  obtain ⟨a, m⟩ := s
  obtain ⟨a', m'⟩ := s'
  have hlist := congrArg String.toList h
  cases a <;> cases a' <;> simp [display, Availability.name] at hlist ⊢
  all_goals exact String.toList_inj.1 hlist

/-- The directory is not known, or one of the segments has no text. -/
def Surroundings.Withholds (w : Surroundings) (c : Configuration) (segments : List Segment)
    (fault : Fault) : Prop :=
  (∃ cause, w.directory = .error cause ∧ fault = .inputOutput cause) ∨
    ∃ directory, w.directory = .ok directory ∧
      Template.renderSegments ⟨.ok directory,
        Git.Repository.discover directory c.gitIntegration w.repository, w.clock⟩ segments =
          .error fault

/-- What is withheld is never the fault of a template. -/
theorem Surroundings.Withholds.isRuntime {w : Surroundings} {c : Configuration}
    {segments : List Segment} {fault : Fault} (h : w.Withholds c segments fault) :
    ∃ code ∈ [Code.invalidDynamicValue, .notImplemented, .gitExtensionError,
      .gitExtensionNotAvailable, .unknownError], fault.IsRuntime code := by
  rcases h with ⟨cause, -, rfl⟩ | ⟨directory, -, hrender⟩
  · exact ⟨.unknownError, by simp, rfl, rfl, nofun⟩
  · obtain ⟨collaborators, henv⟩ := w.exists_collaborators c directory
    rw [← henv] at hrender
    exact Template.report_of_renderSegments hrender

structure Invocation where
  directory : Except String (List UInt8)
  repository : Option Git.Repository
  clock : Clock
  coloured : Bool
  command : Command

namespace Invocation

def surroundings (v : Invocation) (l : Locations) : Surroundings :=
  ⟨l, v.directory, v.repository, v.clock, v.coloured⟩

def outcome (v : Invocation) (l : Locations) (fs : Files) : Outcome :=
  v.command.run (v.surroundings l) fs

end Invocation

structure Event where
  command : Command
  stdout : String
  exit : Nat

namespace Event

def Uses (e : Event) : Prop := (∃ index, e.command = .use index) ∧ e.exit = 0

def Clears (e : Event) : Prop := e.command = .history true ∧ e.exit = 0

def Shows (e : Event) (s : Status) : Prop := e.Uses ∧ e.stdout = s.display ++ "\n"

theorem Shows.unique {e : Event} {s s' : Status} (h : e.Shows s) (h' : e.Shows s') : s = s' := by
  have hprinted : s.display ++ "\n" = s'.display ++ "\n" := h.2.symm.trans h'.2
  exact Status.display_injective (by simpa using hprinted)

theorem not_uses_of_quiet {e : Event} (h : ¬ e.command.MayChangeHistory) : ¬ e.Uses := by
  intro huse
  obtain ⟨⟨index, hindex⟩, -⟩ := huse
  rw [hindex] at h
  exact h trivial

theorem not_clears_of_quiet {e : Event} (h : ¬ e.command.MayChangeHistory) : ¬ e.Clears := by
  intro hclear
  rw [hclear.1] at h
  exact h trivial

theorem Uses.not_clears {e : Event} (h : e.Uses) : ¬ e.Clears := by
  intro hclear
  obtain ⟨⟨index, hindex⟩, -⟩ := h
  exact absurd (hindex.symm.trans hclear.1) (by simp)

end Event

structure Session where
  log : List Event
  files : Files

namespace Session

def step (l : Locations) (s : Session) (v : Invocation) : Session :=
  let o := v.outcome l s.files
  ⟨⟨v.command, o.stdout, o.exit⟩ :: s.log, o.files⟩

def run (l : Locations) (fs : Files) (vs : List Invocation) : Session := vs.foldl (step l) ⟨[], fs⟩

/-- The status was used and printed, and the history has not been cleared since. -/
def UsedSinceClear (log : List Event) (s : Status) : Prop :=
  ∃ later e earlier, log = later ++ e :: earlier ∧ e.Shows s ∧ ∀ x ∈ later, ¬ x.Clears

/-- The latest use, if the history has not been cleared since. -/
def IsLatestUse (log : List Event) (e : Event) : Prop :=
  ∃ later earlier, log = later ++ e :: earlier ∧ e.Uses ∧ ∀ x ∈ later, ¬ x.Uses ∧ ¬ x.Clears

theorem usedSinceClear_cons_self {log : List Event} {x : Event} {s : Status} (h : x.Shows s) :
    UsedSinceClear (x :: log) s := ⟨[], x, log, rfl, h, by simp⟩

theorem UsedSinceClear.cons {log : List Event} {s : Status} (h : UsedSinceClear log s) {x : Event}
    (hx : ¬ x.Clears) : UsedSinceClear (x :: log) s := by
  obtain ⟨later, e, earlier, rfl, he, hlater⟩ := h
  exact ⟨x :: later, e, earlier, rfl, he, List.forall_mem_cons.2 ⟨hx, hlater⟩⟩

theorem isLatestUse_cons {log : List Event} {e x : Event} :
    IsLatestUse (x :: log) e ↔ e = x ∧ x.Uses ∨ ¬ x.Uses ∧ ¬ x.Clears ∧ IsLatestUse log e := by
  constructor
  · intro h
    obtain ⟨later, earlier, heq, he, hlater⟩ := h
    cases later with
    | nil =>
      obtain ⟨rfl, rfl⟩ := List.cons.inj heq
      exact .inl ⟨rfl, he⟩
    | cons y later =>
      obtain ⟨rfl, rfl⟩ := List.cons.inj heq
      obtain ⟨⟨hu, hc⟩, hlater⟩ := List.forall_mem_cons.1 hlater
      exact .inr ⟨hu, hc, later, earlier, rfl, he, hlater⟩
  · intro h
    rcases h with ⟨rfl, hu⟩ | ⟨hu, hc, later, earlier, rfl, he, hlater⟩
    · exact ⟨[], log, rfl, hu, by simp⟩
    · exact ⟨x :: later, earlier, rfl, he, List.forall_mem_cons.2 ⟨⟨hu, hc⟩, hlater⟩⟩

structure Holds (l : Locations) (fs : Files) (c : Configuration) (h : History) : Prop where
  configuration : ∃ path, l.configPath = .ok path ∧
    Configuration.load path fs.configuration = .ok c
  history : ∃ path, l.historyPath = .ok path ∧ History.load fs.history = .ok h
  configurationWritable : fs.configuration.refusal = none
  historyWritable : fs.history.refusal = none

/-- What the files hold follows from the first configuration and the log. -/
structure Sound (first : Configuration) (log : List Event) (c : Configuration) (h : History) :
    Prop where
  historyLimit : c.historyLimit = first.historyLimit
  gitIntegration : c.gitIntegration = first.gitIntegration
  templates : ∀ t ∈ c.templates, ∃ segments, Template.split t.message = .ok segments
  bookmarks : c.bookmarks.Nodup
  bookmarked : ∀ s ∈ c.bookmarks, s ∈ first.bookmarks ∨ ∃ e ∈ log, e.Shows s
  entries : (h.entries.map (·.status)).Nodup
  length : h.entries.length ≤ first.historyLimit.toNat
  used : ∀ e ∈ h.entries, UsedSinceClear log e.status
  latest : 0 < first.historyLimit.toNat → ∀ x, IsLatestUse log x →
    ∃ e, h.entries.head? = some e ∧ ∀ s, x.Shows s ↔ s = e.status

section
variable {l : Locations} {fs fs' : Files} {first c : Configuration} {h : History} {log : List Event}
  {x : Event} {v : Invocation}

theorem Holds.loadConfiguration (hh : Holds l fs c h) :
    (v.surroundings l).loadConfiguration fs = .ok c := bind_eq_ok.2 hh.configuration

theorem Holds.loadHistory (hh : Holds l fs c h) :
    (v.surroundings l).loadHistory fs = .ok h := bind_eq_ok.2 hh.history

theorem Holds.eq_configuration (hh : Holds l fs c h) {c₀ : Configuration}
    (hc₀ : (v.surroundings l).loadConfiguration fs = .ok c₀) : c = c₀ :=
  Except.ok.inj (hh.loadConfiguration.symm.trans hc₀)

theorem Holds.eq_history (hh : Holds l fs c h) {h₀ : History}
    (hh₀ : (v.surroundings l).loadHistory fs = .ok h₀) : h = h₀ :=
  Except.ok.inj (hh.loadHistory.symm.trans hh₀)

theorem Holds.withConfiguration (hh : Holds l fs c h) (c' : Configuration) :
    Holds l (fs.withConfiguration c') c' h where
  configuration := by
    obtain ⟨path, hpath, -⟩ := hh.configuration
    exact ⟨path, hpath, Configuration.load_ofBytes_write path c'⟩
  history := hh.history
  configurationWritable := rfl
  historyWritable := hh.historyWritable

theorem Holds.withHistory (hh : Holds l fs c h) (h' : History) :
    Holds l (fs.withHistory h') c h' where
  configuration := hh.configuration
  history := by
    obtain ⟨path, hpath, -⟩ := hh.history
    exact ⟨path, hpath, History.load_ofBytes_write h'⟩
  configurationWritable := hh.configurationWritable
  historyWritable := rfl

theorem Sound.bookmarked_cons (hs : Sound first log c h) (x : Event) :
    ∀ s ∈ c.bookmarks, s ∈ first.bookmarks ∨ ∃ e ∈ x :: log, e.Shows s := by
  intro s hmem
  rcases hs.bookmarked s hmem with hfirst | ⟨e, he, hshows⟩
  · exact .inl hfirst
  · exact .inr ⟨e, List.mem_cons_of_mem x he, hshows⟩

theorem Sound.idle (hs : Sound first log c h) (hu : ¬ x.Uses) (hc : ¬ x.Clears) :
    Sound first (x :: log) c h :=
  { hs with
    bookmarked := hs.bookmarked_cons x
    used := fun e he => (hs.used e he).cons hc
    latest := by
      intro hpos y hy
      rcases isLatestUse_cons.1 hy with ⟨-, huse⟩ | ⟨-, -, hy⟩
      · exact absurd huse hu
      · exact hs.latest hpos y hy }

theorem Sound.quiet (hs : Sound first log c h) (hx : ¬ x.command.MayChangeHistory) :
    Sound first (x :: log) c h :=
  hs.idle (Event.not_uses_of_quiet hx) (Event.not_clears_of_quiet hx)

theorem Sound.add (hs : Sound first log c h) {t : StatusTemplate}
    (ht : ∃ segments, Template.split t.message = .ok segments) : Sound first log (c.add t) h :=
  { hs with
    templates := by
      intro t' hmem
      rcases List.mem_append.1 hmem with hmem | hmem
      · exact hs.templates t' hmem
      · rwa [List.mem_singleton.1 hmem] }

theorem Sound.remove (hs : Sound first log c h) (i : Nat) :
    Sound first log { c with templates := c.templates.eraseIdx i } h :=
  { hs with templates := fun t hmem => hs.templates t (List.mem_of_mem_eraseIdx hmem) }

theorem UsedSinceClear.exists_shows {s : Status} (hs : UsedSinceClear log s) :
    ∃ e ∈ log, e.Shows s := by
  obtain ⟨later, e, earlier, rfl, he, -⟩ := hs
  exact ⟨e, by simp, he⟩

theorem Sound.bookmark (hs : Sound first log c h) {e : HistoryEntry} (he : e ∈ h.entries)
    (hnew : e.status ∉ c.bookmarks) :
    Sound first log { c with bookmarks := c.bookmarks ++ [e.status] } h :=
  { hs with
    bookmarks := List.nodup_append.2 ⟨hs.bookmarks, by simp, by
      intro s hmem s' hs' heq
      rw [heq, List.mem_singleton.1 hs'] at hmem
      exact hnew hmem⟩
    bookmarked := by
      intro s hmem
      rcases List.mem_append.1 hmem with hmem | hmem
      · exact hs.bookmarked s hmem
      · rw [List.mem_singleton.1 hmem]
        exact .inr (hs.used e he).exists_shows }

theorem Sound.clear (hs : Sound first log c h) (hx : x.Clears) :
    Sound first (x :: log) c History.empty :=
  { hs with
    bookmarked := hs.bookmarked_cons x
    entries := List.nodup_nil
    length := Nat.zero_le _
    used := by simp [History.empty]
    latest := by
      intro _ y hy
      rcases isLatestUse_cons.1 hy with ⟨-, huse⟩ | ⟨-, hno, -⟩
      · exact absurd hx huse.not_clears
      · exact absurd hx hno }

theorem Sound.record (hs : Sound first log c h) {s : Status} (hx : x.Shows s) (time : Instant) :
    Sound first (x :: log) c (h.record s time first.historyLimit.toNat) :=
  { hs with
    bookmarked := hs.bookmarked_cons x
    entries := (History.nodup_recall hs.entries (.record s time first.historyLimit.toNat)).sublist
      ((List.take_sublist _ _).map _)
    length := History.length_record_le ..
    used := by
      intro e he
      rcases List.mem_cons.1 (List.mem_of_mem_take he) with rfl | he
      · exact usedSinceClear_cons_self hx
      · exact (hs.used e (List.mem_filter.1 he).1).cons hx.1.not_clears
    latest := by
      intro hpos y hy
      rcases isLatestUse_cons.1 hy with ⟨rfl, -⟩ | ⟨hno, -, -⟩
      · exact ⟨⟨s, time⟩, History.latest?_record h s time hpos,
          fun s' => ⟨fun hs' => hs'.unique hx, fun heq => heq ▸ hx⟩⟩
      · exact absurd hx.1 hno }

theorem Sound.eq_record (hs : Sound first log c h) (s : Status) (time : Instant)
    (hlimit : first.historyLimit = 0) : h = h.record s time first.historyLimit.toNat := by
  have hnone : h.entries = [] := List.eq_nil_of_length_eq_zero (by simpa [hlimit] using hs.length)
  obtain ⟨entries⟩ := h
  simpa [History.record, hlimit] using hnone

theorem Sound.afterUse (hs : Sound first log c h) (hh : Holds l fs c h) {s : Status}
    (hx : x.Shows s) :
    ∃ h', Holds l ((v.surroundings l).afterUse fs s c.historyLimit) c h' ∧
      Sound first (x :: log) c h' := by
  refine ⟨h.record s v.clock.now first.historyLimit.toNat, ?_, hs.record hx v.clock.now⟩
  rw [hs.historyLimit]
  by_cases hlimit : first.historyLimit = 0
  · rw [← hs.eq_record s v.clock.now hlimit, hlimit, Surroundings.afterUse_zero]
    exact hh
  · rw [Surroundings.afterUse_of_load hlimit hh.loadHistory hh.historyWritable]
    exact hh.withHistory _

theorem sound_of_perform (hh : Holds l fs c h) (hs : Sound first log c h) {command : Command}
    {text : String} (hp : (command.perform (v.surroundings l)).run fs = (.ok text, fs')) :
    ∃ c' h', Holds l fs' c' h' ∧ Sound first (⟨command, text, 0⟩ :: log) c' h' := by
  have hy : command.Yields (v.surroundings l) fs fs' := ⟨text, hp⟩
  cases command with
  | render template =>
    obtain ⟨-, rfl⟩ := Command.yields_render.1 hy
    exact ⟨c, h, hh, hs.quiet id⟩
  | parse template =>
    obtain ⟨-, rfl⟩ := Command.yields_parse.1 hy
    exact ⟨c, h, hh, hs.quiet id⟩
  | listTemplates =>
    obtain ⟨-, rfl⟩ := Command.yields_listTemplates.1 hy
    exact ⟨c, h, hh, hs.quiet id⟩
  | addTemplate label message availability =>
    obtain ⟨hsplit, c₀, hc₀, -, rfl⟩ := Command.yields_addTemplate.1 hy
    obtain rfl := hh.eq_configuration hc₀
    exact ⟨_, h, hh.withConfiguration _, (hs.add hsplit).quiet id⟩
  | removeTemplate index =>
    obtain ⟨c₀, t, hc₀, -, -, rfl⟩ := Command.yields_removeTemplate.1 hy
    obtain rfl := hh.eq_configuration hc₀
    exact ⟨_, h, hh.withConfiguration _, (hs.remove _).quiet id⟩
  | use index =>
    obtain ⟨c₀, t, message, hc₀, -, -, rfl, rfl⟩ := Command.perform_use_eq_ok.1 hp
    obtain rfl := hh.eq_configuration hc₀
    have hshows : Event.Shows
        ⟨.use index, Status.display ⟨t.availability, message⟩ ++ "\n", 0⟩
        ⟨t.availability, message⟩ := ⟨⟨⟨index, rfl⟩, rfl⟩, rfl⟩
    exact ⟨c, hs.afterUse hh hshows⟩
  | history clear =>
    cases clear with
    | true =>
      obtain ⟨-, -, rfl⟩ := Command.yields_clearHistory.1 hy
      exact ⟨c, _, hh.withHistory _, hs.clear ⟨rfl, rfl⟩⟩
    | false =>
      obtain ⟨-, rfl⟩ := Command.yields_listHistory.1 hy
      exact ⟨c, h, hh, hs.quiet id⟩
  | bookmarks =>
    obtain ⟨-, rfl⟩ := Command.yields_bookmarks.1 hy
    exact ⟨c, h, hh, hs.quiet id⟩
  | bookmark =>
    obtain ⟨h₀, e, c₀, hh₀, he, hc₀, ⟨-, rfl⟩ | ⟨hnew, -, rfl⟩⟩ := Command.yields_bookmark.1 hy
    · exact ⟨c, h, hh, hs.quiet id⟩
    · obtain rfl := hh.eq_configuration hc₀
      obtain rfl := hh.eq_history hh₀
      exact ⟨_, h, hh.withConfiguration _,
        (hs.bookmark (List.mem_of_head? he) hnew).quiet id⟩

theorem sound_step {s : Session} (hh : Holds l s.files c h) (hs : Sound first s.log c h)
    (v : Invocation) :
    ∃ c' h', Holds l (s.step l v).files c' h' ∧ Sound first (s.step l v).log c' h' := by
  rcases Command.run_cases (v.surroundings l) s.files v.command with
    ⟨text, fs', hp, hrun⟩ | ⟨-, hexit, hfiles⟩
  · have hstep : s.step l v = ⟨⟨v.command, text, 0⟩ :: s.log, fs'⟩ := by
      simp only [step, Invocation.outcome, hrun]
    rw [hstep]
    exact sound_of_perform hh hs hp
  · have hfailed : (v.outcome l s.files).exit ≠ 0 := by
      rw [Invocation.outcome, hexit]
      exact Nat.one_ne_zero
    refine ⟨c, h, ?_, hs.idle (fun hu => hfailed hu.2) fun hc => hfailed hc.2⟩
    rw [step, Invocation.outcome, hfiles]
    exact hh

theorem sound_foldl {s : Session} (hh : Holds l s.files c h) (hs : Sound first s.log c h)
    (vs : List Invocation) :
    ∃ c' h', Holds l (vs.foldl (step l) s).files c' h' ∧
      Sound first (vs.foldl (step l) s).log c' h' := by
  induction vs generalizing s c h with
  | nil => exact ⟨c, h, hh, hs⟩
  | cons v vs ih =>
    obtain ⟨c', h', hh', hs'⟩ := sound_step hh hs v
    exact ih hh' hs'

/-- The message is read without fault, and to record the status never fails. -/
theorem withholds_of_use {w : Surroundings} {index : Nat} {t : StatusTemplate}
    {segments : List Segment} {fault : Fault} (hc : w.loadConfiguration fs = .ok c)
    (ht : c.template index = .ok t) (hsplit : Template.split t.message = .ok segments)
    (h : ((Command.use index).perform w).run fs = (.error fault, fs')) :
    w.Withholds c segments fault := by
  simp only [Command.perform, Job.run_get_bind, hc, ht, Job.run_ok_bind,
    Job.run_lift_bind_eq_error] at h
  rcases h with ⟨hrender, -⟩ | ⟨message, -, hrecord⟩
  · simpa only [Surroundings.Withholds, Surroundings.render, Template.render, hsplit, ok_bind,
      bind_eq_error, mapError_eq_ok, mapError_eq_error, eq_comm (b := fault)] using hrender
  · have hnever := (w.neverFails_recordUse ⟨t.availability, message⟩ c.historyLimit).bind
      fun _ => Job.neverFails_pure (Status.display ⟨t.availability, message⟩ ++ "\n")
    exact absurd hrecord (hnever fs fault fs')

end

/-- The configuration can be read and written. It is missing, or its templates can be split and its
bookmarks differ. There is no history, but a place for it. -/
structure Begins (l : Locations) (fs : Files) (first : Configuration) : Prop where
  configuration : ∃ path, l.configPath = .ok path ∧
    Configuration.load path fs.configuration = .ok first
  configurationWritable : fs.configuration.refusal = none
  historyPlace : ∃ path, l.historyPath = .ok path
  noHistory : fs.history = .absent
  wellFormed : fs.configuration.entry = .missing ∨
    (∀ t ∈ first.templates, ∃ segments, Template.split t.message = .ok segments) ∧
      first.bookmarks.Nodup

theorem Begins.splits_and_nodup {l : Locations} {fs : Files} {first : Configuration}
    (hb : Begins l fs first) :
    (∀ t ∈ first.templates, ∃ segments, Template.split t.message = .ok segments) ∧
      first.bookmarks.Nodup := by
  rcases hb.wellFormed with hmissing | hformed
  · obtain ⟨path, -, hload⟩ := hb.configuration
    obtain rfl := Except.ok.inj ((Configuration.load_missing path hmissing).symm.trans hload)
    exact ⟨by simp [Configuration.default], List.nodup_nil⟩
  · exact hformed

theorem Begins.holds {l : Locations} {fs : Files} {first : Configuration}
    (hb : Begins l fs first) : Holds l fs first History.empty where
  configuration := hb.configuration
  history := by
    obtain ⟨path, hpath⟩ := hb.historyPlace
    exact ⟨path, hpath, by rw [hb.noHistory]; rfl⟩
  configurationWritable := hb.configurationWritable
  historyWritable := by
    rw [hb.noHistory]
    rfl

theorem Begins.sound {l : Locations} {fs : Files} {first : Configuration}
    (hb : Begins l fs first) : Sound first [] first History.empty where
  historyLimit := rfl
  gitIntegration := rfl
  templates := hb.splits_and_nodup.1
  bookmarks := hb.splits_and_nodup.2
  bookmarked := fun _ hmem => .inl hmem
  entries := List.nodup_nil
  length := Nat.zero_le _
  used := by simp [History.empty]
  latest := by simp [IsLatestUse]

/-- A session keeps both files readable and what they hold sound. A template that is there can be
used as far as its placeholders can be rendered, and a use of it fails with no fault of splitting
templates. -/
theorem run_is_sound {l : Locations} {fs : Files} {first : Configuration}
    (hb : Begins l fs first) (vs : List Invocation) :
    ∃ c h, Holds l (run l fs vs).files c h ∧ Sound first (run l fs vs).log c h ∧
      ∀ (v : Invocation) (index : Nat), 0 < index → index ≤ c.templates.length →
        ∃ t segments, c.templates[index - 1]? = some t ∧
          Template.split t.message = .ok segments ∧
          ∀ fault fs', ((Command.use index).perform (v.surroundings l)).run (run l fs vs).files =
              (.error fault, fs') →
            fault.report.scope = .internal ∧
            (∃ code ∈ [Code.invalidDynamicValue, .notImplemented, .gitExtensionError,
              .gitExtensionNotAvailable, .unknownError], fault.report.code = some code) ∧
            (∀ template, Template.split template ≠ .error fault) ∧
            (v.surroundings l).Withholds c segments fault := by
  obtain ⟨c, h, hh, hs⟩ := sound_foldl (s := ⟨[], fs⟩) hb.holds hb.sound vs
  refine ⟨c, h, hh, hs, ?_⟩
  intro v index hpos hle
  have hget : c.templates[index - 1]? = some c.templates[index - 1] :=
    List.getElem?_eq_getElem (by omega)
  obtain ⟨segments, hsplit⟩ := hs.templates c.templates[index - 1] (List.getElem_mem _)
  have ht : c.template index = .ok c.templates[index - 1] :=
    Configuration.template_eq_ok.2 ⟨hpos, hget⟩
  refine ⟨_, segments, hget, hsplit, fun fault fs' hfault => ?_⟩
  have hwithholds : (v.surroundings l).Withholds c segments fault :=
    withholds_of_use hh.loadConfiguration ht hsplit hfault
  obtain ⟨code, hmem, hruntime⟩ := hwithholds.isRuntime
  exact ⟨hruntime.1, ⟨code, hmem, hruntime.2.1⟩, Template.split_ne_error_of_isRuntime hruntime,
    hwithholds⟩

theorem run_is_sound_lunch :
    let first : Configuration :=
      ⟨[⟨"Lunch", "Near \x7bd\x7d", .away⟩], [⟨.busy, "Call"⟩], 3, true⟩
    let fs : Files := ⟨.ofBytes first.write.toUTF8, .absent⟩
    let l : Locations := ⟨some "/home/u", none, none⟩
    let visit (c : Command) : Invocation :=
      ⟨.ok "/work/demo".toUTF8.toList, none, .fixed ⟨0, 0, by decide⟩ 0, false, c⟩
    let vs := [visit (.use 1), visit .bookmark, visit (.history true), visit (.removeTemplate 1)]
    Begins l fs first ∧
      ∃ c h, Holds l (run l fs vs).files c h ∧ Sound first (run l fs vs).log c h := by
  intro first fs l visit vs
  have hb : Begins l fs first :=
    { configuration := ⟨_, rfl, Configuration.load_ofBytes_write _ first⟩
      configurationWritable := rfl
      historyPlace := ⟨_, rfl⟩
      noHistory := rfl
      wellFormed := by
        refine .inr ⟨fun t ht => ?_, by simp [first]⟩
        rw [List.mem_singleton.1 ht]
        exact ⟨_, rfl⟩ }
  obtain ⟨c, h, hh, hs, -⟩ := run_is_sound hb vs
  exact ⟨hb, c, h, hh, hs⟩

end Session
end StatusLine
