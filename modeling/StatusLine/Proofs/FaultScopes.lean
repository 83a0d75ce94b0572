import StatusLine.Command.Run
import StatusLine.Proofs.PlaceholderForms
import StatusLine.Proofs.TemplateGrammar
import StatusLine.Proofs.WallClock

/-!
# Whose fault it is

A template that cannot be split is the fault of its writer, unless what is leftmost is a body that
begins with the letter of no kind. A template that can be split fails by no fault of its writer, and
`Segment.codes` is the table of what can go wrong with a segment. Faults are sorted where they
arise, by `FailsOnly`; from there on only the first one counts, the leftmost of the template or that
of the first segment that fails.
-/
namespace StatusLine

namespace Fault

def IsMisuse (f : Fault) : Prop :=
  f.report.scope = .user ∧
    (f.report.code = some .invalidDynamicValue ∨ f.report.code = some .parseInvalidTimeRange)

/-- A fault that no template has when it is split. -/
def IsRuntime (code : Code) (f : Fault) : Prop :=
  f.report.scope = .internal ∧ f.report.code = some code ∧ ∀ letter, f ≠ .placeholderUnknown letter

end Fault

theorem Modifier.failsOnly_fill {α β : Type} {P : Fault → Prop} {slot : Option α} {f : Fault}
    {x : Except Fault β} (hf : P f) (hx : FailsOnly P x) :
    FailsOnly P (if slot.isSome then .error f else x) := by
  cases slot with
  | none => exact hx
  | some a => exact .error hf

theorem TimeSpan.failsOnly_parse (text : String) : FailsOnly Fault.IsMisuse (parse text) := by
  unfold parse
  split
  · exact .ok _
  · exact .error ⟨rfl, .inr rfl⟩

namespace Rounding

theorem failsOnly_ofAmount (text : String) (d : Direction) (n : Int) (u : TimeUnit) :
    FailsOnly Fault.IsMisuse (ofAmount text d n u) := by
  unfold ofAmount
  split
  · exact .error ⟨rfl, .inl rfl⟩
  · split
    · exact .ok _
    · exact .error ⟨rfl, .inl rfl⟩

theorem failsOnly_read (value : List Char) : FailsOnly Fault.IsMisuse (read value) := by
  refine (TimeSpan.failsOnly_parse _).bind fun span _ => ?_
  unfold ofSpan
  split
  · exact failsOnly_ofAmount _ _ _ _
  · exact failsOnly_ofAmount _ _ _ _
  · exact .error ⟨rfl, .inl rfl⟩

end Rounding

theorem DirectoryName.failsOnly_apply (d : DirectoryName) (m : List Char) :
    FailsOnly Fault.IsMisuse (d.apply m) := by
  unfold apply
  split
  case h_1 value =>
    refine Modifier.failsOnly_fill ⟨rfl, .inl rfl⟩ ?_
    cases offset? value with
    | none => exact .error ⟨rfl, .inl rfl⟩
    | some n => exact .ok _
  case h_2 value =>
    refine Modifier.failsOnly_fill ⟨rfl, .inl rfl⟩ ?_
    cases WordFormat.ofName? (String.ofList value) with
    | none => exact .error ⟨rfl, .inl rfl⟩
    | some f => exact .ok _
  case h_3 value =>
    refine Modifier.failsOnly_fill ⟨rfl, .inl rfl⟩ ?_
    cases WordCasing.ofName? (String.ofList value) with
    | none => exact .error ⟨rfl, .inl rfl⟩
    | some c => exact .ok _
  case h_4 value => exact Modifier.failsOnly_fill ⟨rfl, .inl rfl⟩ (.ok _)
  case h_5 => exact .error ⟨rfl, .inl rfl⟩

theorem GitReference.failsOnly_apply (r : Option GitReference) (m : List Char) :
    FailsOnly Fault.IsMisuse (apply r m) := by
  unfold apply
  split
  case h_1 value =>
    refine Modifier.failsOnly_fill ⟨rfl, .inl rfl⟩ ?_
    cases ofName? (String.ofList value) with
    | none => exact .error ⟨rfl, .inl rfl⟩
    | some x => exact .ok _
  case h_2 => exact .error ⟨rfl, .inl rfl⟩

theorem InputChoice.failsOnly_apply (i : InputChoice) (m : List Char) :
    FailsOnly Fault.IsMisuse (i.apply m) := by
  unfold apply
  split
  case h_1 value =>
    refine Modifier.failsOnly_fill ⟨rfl, .inl rfl⟩ ?_
    exact Modifier.failsOnly_fill ⟨rfl, .inl rfl⟩ (.ok _)
  case h_2 value =>
    refine Modifier.failsOnly_fill ⟨rfl, .inl rfl⟩ ?_
    exact Modifier.failsOnly_fill ⟨rfl, .inl rfl⟩ (.ok _)
  case h_3 => exact .error ⟨rfl, .inl rfl⟩

namespace ClockTime

theorem failsOnly_shiftOf (m : List Char) : FailsOnly Fault.IsMisuse (shiftOf m) := by
  refine (TimeSpan.failsOnly_parse _).bind fun span _ => ?_
  split
  · split_ifs
    · exact .ok _
    · exact .error ⟨rfl, .inl rfl⟩
  · exact .error ⟨rfl, .inl rfl⟩

theorem failsOnly_apply (t : ClockTime) (m : List Char) :
    FailsOnly Fault.IsMisuse (t.apply m) := by
  unfold apply
  split
  case h_1 value =>
    refine Modifier.failsOnly_fill ⟨rfl, .inl rfl⟩ ?_
    exact (failsOnly_shiftOf _).bind fun n _ => .ok _
  case h_2 value =>
    refine Modifier.failsOnly_fill ⟨rfl, .inl rfl⟩ ?_
    exact (failsOnly_shiftOf _).bind fun n _ => .ok _
  case h_3 value =>
    refine Modifier.failsOnly_fill ⟨rfl, .inl rfl⟩ ?_
    exact (Rounding.failsOnly_read value).bind fun r _ => .ok _
  case h_4 value => exact Modifier.failsOnly_fill ⟨rfl, .inl rfl⟩ (.ok _)
  case h_5 => exact .error ⟨rfl, .inl rfl⟩

end ClockTime

namespace Placeholder

def IsUntyped (body : List Char) : Prop := ∀ k : Kind, body.head? ≠ some k.letter

theorem Kind.failsOnly_read (k : Kind) (text : List Char) :
    FailsOnly Fault.IsMisuse (read (k.letter :: text)) := by
  have happly : ∀ d m, FailsOnly Fault.IsMisuse (k.form.apply d m) := by
    cases k with
    | directory => exact DirectoryName.failsOnly_apply
    | git => exact GitReference.failsOnly_apply
    | input => exact InputChoice.failsOnly_apply
    | time => exact ClockTime.failsOnly_apply
  rw [read_letter]
  refine (FailsOnly.foldlM happly _ _).bind fun d _ => ?_
  match k, d with
  | directory, d => exact .ok _
  | git, some r => exact .ok _
  | git, none => exact .error ⟨rfl, .inl rfl⟩
  | input, i => exact .ok _
  | time, t => exact .ok _

theorem read_of_isUntyped {body : List Char} (h : IsUntyped body) :
    read body = .error (.placeholderUnknown (String.ofList (body.take 1))) := by
  unfold read
  split
  case h_1 hd => exact absurd hd (h .directory)
  case h_2 hg => exact absurd hg (h .git)
  case h_3 hi => exact absurd hi (h .input)
  case h_4 ht => exact absurd ht (h .time)
  case h_5 => rfl

theorem read_error_cases {body : List Char} {f : Fault} (h : read body = .error f) :
    IsUntyped body ∧ (∃ letter, f = .placeholderUnknown letter) ∨
      ¬ IsUntyped body ∧ f.IsMisuse := by
  by_cases hbody : IsUntyped body
  · rw [read_of_isUntyped hbody] at h
    exact .inl ⟨hbody, _, (Except.error.inj h).symm⟩
  · refine .inr ⟨hbody, ?_⟩
    obtain ⟨k, hk⟩ : ∃ k : Kind, body.head? = some k.letter := by
      simpa [IsUntyped] using hbody
    obtain ⟨text, rfl⟩ := List.head?_eq_some_iff.1 hk
    exact k.failsOnly_read text f h

end Placeholder

namespace VersionControl

inductive Origin
  | fixed (branch commit : Option String)
  | unavailable (reason : String)
  | repository (r : Git.Repository)

namespace Origin

def answers : Origin → VersionControl
  | fixed branch commit => .fixed branch commit
  | unavailable reason => .unavailable reason
  | repository r => r.versionControl

def code : Origin → Code
  | unavailable _ => .gitExtensionNotAvailable
  | fixed _ _ | repository _ => .gitExtensionError

theorem exists_discover (directory : List UInt8) (enabled : Bool) (found : Option Git.Repository) :
    ∃ o : Origin, Git.Repository.discover directory enabled found = o.answers := by
  unfold Git.Repository.discover
  split
  · split
    · exact ⟨.repository _, rfl⟩
    · exact ⟨.unavailable _, rfl⟩
  · exact ⟨.unavailable _, rfl⟩

theorem failsOnly_branchName (o : Origin) (reference : String) :
    FailsOnly (Fault.IsRuntime o.code) (o.answers.branchName reference) := by
  cases o with
  | fixed branch commit => exact .ok branch
  | unavailable reason => exact .error ⟨rfl, rfl, nofun⟩
  | repository r => exact .mapError (fun why => ⟨rfl, rfl, nofun⟩) _

theorem failsOnly_commitHash (o : Origin) (reference : String) :
    FailsOnly (Fault.IsRuntime o.code) (o.answers.commitHash reference) := by
  cases o with
  | fixed branch commit =>
    cases commit with
    | none => exact .error ⟨rfl, rfl, nofun⟩
    | some hash => exact .ok hash
  | unavailable reason => exact .error ⟨rfl, rfl, nofun⟩
  | repository r => exact .mapError (fun why => ⟨rfl, rfl, nofun⟩) _

theorem code_eq_notAvailable {o : Origin} :
    o.code = .gitExtensionNotAvailable ↔ ∃ reason, o = .unavailable reason := by
  cases o <;> simp [code]

theorem code_of_answered {o : Origin} {reference : String} {branch : Option String}
    (h : o.answers.branchName reference = .ok branch) : o.code = .gitExtensionError := by
  cases o with
  | fixed branch commit => rfl
  | unavailable reason => simp [answers, VersionControl.unavailable] at h
  | repository r => rfl

end Origin
end VersionControl

/-- What the program makes an environment of. The directory is known, or the system says why not. -/
structure Collaborators where
  directory : Except String (List UInt8)
  origin : VersionControl.Origin
  clock : Clock

def Collaborators.environment (c : Collaborators) : Environment :=
  ⟨c.directory.mapError .inputOutput, c.origin.answers, c.clock⟩

theorem Surroundings.exists_collaborators (w : Surroundings) (cfg : Configuration)
    (directory : List UInt8) :
    ∃ c : Collaborators, c.environment = ⟨.ok directory,
      Git.Repository.discover directory cfg.gitIntegration w.repository, w.clock⟩ := by
  obtain ⟨o, ho⟩ :=
    VersionControl.Origin.exists_discover directory cfg.gitIntegration w.repository
  exact ⟨⟨.ok directory, o, w.clock⟩, by rw [ho]; rfl⟩

def Segment.codes (o : VersionControl.Origin) : Segment → List Code
  | .text _ => []
  | .placeholder (.directory _) => [.invalidDynamicValue, .unknownError]
  | .placeholder (.git _) => [o.code]
  | .placeholder (.input _) => [.notImplemented]
  | .placeholder (.time _) => [.invalidDynamicValue]

section
variable {c : Collaborators} {f : Fault}

theorem DirectoryName.report_of_render {d : DirectoryName}
    (h : d.render c.environment = .error f) :
    f.IsRuntime .invalidDynamicValue ∨ f.IsRuntime .unknownError := by
  by_cases hsafe : Bounds.IsSafeIndex d.levels
  · simp only [render, hsafe, not_true_eq_false, if_false] at h
    rcases bind_eq_error.1 h with h | ⟨path, -, h⟩
    · exact .inr (FailsOnly.mapError (fun cause => ⟨rfl, rfl, nofun⟩) c.directory f h)
    · split at h
      · simp at h
      · obtain rfl := Except.error.inj h
        exact .inl ⟨rfl, rfl, nofun⟩
  · simp only [render, hsafe, not_false_eq_true, if_true, error_bind, Except.error.injEq] at h
    subst h
    exact .inl ⟨rfl, rfl, nofun⟩

theorem GitReference.report_of_render {r : GitReference}
    (h : r.render c.environment = .error f) : f.IsRuntime c.origin.code := by
  cases r with
  | branch =>
    rcases bind_eq_error.1 h with h | ⟨name?, hname, h⟩
    · exact c.origin.failsOnly_branchName _ f h
    · cases name? with
      | none =>
        obtain rfl := Except.error.inj h
        rw [VersionControl.Origin.code_of_answered hname]
        exact ⟨rfl, rfl, nofun⟩
      | some name => simp at h
  | commit =>
    rcases bind_eq_error.1 h with h | ⟨hash, -, h⟩
    · exact c.origin.failsOnly_commitHash _ f h
    · simp at h

theorem ClockTime.report_of_render {t : ClockTime} (h : t.render c.environment = .error f) :
    f.IsRuntime .invalidDynamicValue := by
  rcases render_error_cases h with rfl | ⟨r, rfl⟩
  · exact ⟨rfl, rfl, nofun⟩
  · exact ⟨rfl, rfl, nofun⟩

theorem Segment.report_of_render {s : Segment} (h : s.render c.environment = .error f) :
    ∃ code ∈ s.codes c.origin, f.IsRuntime code := by
  match s with
  | .text str => simp [render] at h
  | .placeholder (.directory d) =>
    rcases DirectoryName.report_of_render h with hf | hf
    · exact ⟨_, by simp [codes], hf⟩
    · exact ⟨_, by simp [codes], hf⟩
  | .placeholder (.git r) => exact ⟨_, by simp [codes], GitReference.report_of_render h⟩
  | .placeholder (.input i) =>
    obtain rfl := Except.error.inj h
    exact ⟨_, by simp [codes], rfl, rfl, nofun⟩
  | .placeholder (.time t) => exact ⟨_, by simp [codes], ClockTime.report_of_render h⟩

theorem Segment.codes_subset (o : VersionControl.Origin) (s : Segment) :
    s.codes o ⊆ [.invalidDynamicValue, .notImplemented, .gitExtensionError,
      .gitExtensionNotAvailable, .unknownError] := by
  match s with
  | .text str => simp [codes]
  | .placeholder (.directory d) => simp [codes]
  | .placeholder (.git r) => cases o <;> simp [codes, VersionControl.Origin.code]
  | .placeholder (.input i) => simp [codes]
  | .placeholder (.time t) => simp [codes]

theorem Segment.notAvailable_mem_codes {o : VersionControl.Origin} {s : Segment} :
    .gitExtensionNotAvailable ∈ s.codes o ↔
      (∃ r, s = .placeholder (.git r)) ∧ ∃ reason, o = .unavailable reason := by
  rw [← VersionControl.Origin.code_eq_notAvailable]
  match s with
  | .text str => simp [codes]
  | .placeholder (.directory d) => simp [codes]
  | .placeholder (.git r) => simp [codes, eq_comm]
  | .placeholder (.input i) => simp [codes]
  | .placeholder (.time t) => simp [codes]

end

namespace Template

def FailsFirst (env : Environment) (segs : List Segment) (s : Segment) (f : Fault) : Prop :=
  ∃ before after, segs = before ++ s :: after ∧
    (∀ b ∈ before, ∃ text, b.render env = .ok text) ∧ s.render env = .error f

theorem renderSegments_eq_error {env : Environment} {segs : List Segment} {f : Fault} :
    renderSegments env segs = .error f ↔ ∃ s, FailsFirst env segs s f := by
  rw [renderSegments, map_eq_error]
  exact mapM_eq_error

/-- The leftmost fault is at the end of a body that begins with the letter of no kind. -/
def UntypedFirst (t : String) (ms : List Mark) : Prop :=
  ∃ i body, ms[i]? = some .closing ∧ LeavesOpen (ms.take i) body ∧ Placeholder.IsUntyped body ∧
    ∀ j < i, ∀ g, ¬ FaultAt t ms j g

theorem UntypedFirst.eq_placeholderUnknown {t : String} {ms : List Mark} (h : UntypedFirst t ms)
    {f : Fault} (hf : scan t (.outside []) ms = .error f) :
    ∃ letter, f = .placeholderUnknown letter := by
  obtain ⟨i, body, hi, hopen, hbody, hleast⟩ := h
  have hlt : i < ms.length := (List.getElem?_eq_some_iff.1 hi).1
  have hfault : FaultAt t ms i (.placeholderUnknown (String.ofList (body.take 1))) := by
    refine ⟨Nat.le_of_lt hlt, ?_⟩
    rw [hi]
    exact .rejected hopen (Placeholder.read_of_isUntyped hbody)
  rw [scan_eq_error_iff_leftmost.2 ⟨i, hfault, hleast⟩] at hf
  exact ⟨_, (Except.error.inj hf).symm⟩

theorem scan_error_cases {t : String} {ms : List Mark} {f : Fault}
    (h : scan t (.outside []) ms = .error f) :
    UntypedFirst t ms ∧ (∃ letter, f = .placeholderUnknown letter) ∨
      ¬ UntypedFirst t ms ∧ f.report.scope = .user ∧
        ∃ code ∈ [Code.invalidTemplateString, .invalidDynamicValue, .parseInvalidTimeRange],
          f.report.code = some code := by
  by_cases huntyped : UntypedFirst t ms
  · exact .inl ⟨huntyped, huntyped.eq_placeholderUnknown h⟩
  · refine .inr ⟨huntyped, ?_⟩
    obtain ⟨i, ⟨-, hfault⟩, hleast⟩ := scan_eq_error_iff_leftmost.1 h
    generalize hi : ms[i]? = m at hfault
    cases hfault with
    | nested hopen => exact ⟨rfl, _, by simp, rfl⟩
    | stray hclosed => exact ⟨rfl, _, by simp, rfl⟩
    | unclosed hopen => exact ⟨rfl, _, by simp, rfl⟩
    | rejected hopen hread =>
      rcases Placeholder.read_error_cases hread with ⟨hbody, -⟩ | ⟨-, hscope, hcode | hcode⟩
      -- A body of no kind would be what is leftmost.
      · exact absurd ⟨i, _, hi, hopen, hbody, hleast⟩ huntyped
      · exact ⟨hscope, _, by simp, hcode⟩
      · exact ⟨hscope, _, by simp, hcode⟩

theorem split_ne_error_of_isRuntime {code : Code} {f : Fault} (hf : f.IsRuntime code) (t : String) :
    split t ≠ .error f := by
  intro hsplit
  obtain ⟨hscope, -, htyped⟩ := hf
  rcases scan_error_cases hsplit with ⟨-, letter, hletter⟩ | ⟨-, huser, -⟩
  · exact htyped letter hletter
  · exact absurd (hscope.symm.trans huser) (by simp)

theorem report_of_renderSegments {c : Collaborators} {segs : List Segment} {f : Fault}
    (h : renderSegments c.environment segs = .error f) :
    ∃ code ∈ [Code.invalidDynamicValue, .notImplemented, .gitExtensionError,
      .gitExtensionNotAvailable, .unknownError], f.IsRuntime code := by
  obtain ⟨s, before, after, -, -, hs⟩ := renderSegments_eq_error.1 h
  obtain ⟨code, hmem, hf⟩ := Segment.report_of_render hs
  exact ⟨code, s.codes_subset c.origin hmem, hf⟩

/-- A failure is always shown, and its scope and code tell what has failed. While the template is
split it is the fault of its writer, unless the leftmost fault is a body that begins with the letter
of no kind. After that it never is; the first segment that fails decides about the code, and that
version control is not available is reported by a reference alone. -/
theorem render_failure_origin (c : Collaborators) {t : String} {f : Fault}
    (h : render c.environment t = .error f) :
    f.report.shown = true ∧
    (split t = .error f ∧
        (UntypedFirst t (Mark.ofText t.toList) ∧
            f.report.scope = .internal ∧ f.report.code = some .invalidDynamicValue ∨
          ¬ UntypedFirst t (Mark.ofText t.toList) ∧ f.report.scope = .user ∧
            ∃ code ∈ [Code.invalidTemplateString, .invalidDynamicValue, .parseInvalidTimeRange],
              f.report.code = some code) ∨
      ∃ segs s, split t = .ok segs ∧ FailsFirst c.environment segs s f ∧
        f.report.scope = .internal ∧
        (∃ code ∈ [Code.invalidDynamicValue, .notImplemented, .gitExtensionError,
          .gitExtensionNotAvailable, .unknownError], f.report.code = some code) ∧
        (f.report.code = some .gitExtensionNotAvailable ↔
          (∃ r, s = .placeholder (.git r)) ∧ ∃ reason, c.origin = .unavailable reason)) := by
  refine ⟨f.report_shown, ?_⟩
  rcases bind_eq_error.1 h with hsplit | ⟨segs, hsplit, hsegs⟩
  · refine .inl ⟨hsplit, ?_⟩
    rcases scan_error_cases hsplit with ⟨huntyped, letter, rfl⟩ | hmisuse
    · exact .inl ⟨huntyped, rfl, rfl⟩
    · exact .inr hmisuse
  · obtain ⟨s, hfirst⟩ := renderSegments_eq_error.1 hsegs
    obtain ⟨before, after, -, -, hs⟩ := id hfirst
    obtain ⟨code, hmem, hscope, hcode, -⟩ := Segment.report_of_render hs
    refine .inr ⟨segs, s, hsplit, hfirst, hscope, ⟨code, s.codes_subset c.origin hmem, hcode⟩, ?_⟩
    constructor
    · intro hna
      obtain rfl : code = .gitExtensionNotAvailable := Option.some.inj (hcode.symm.trans hna)
      exact Segment.notAvailable_mem_codes.1 hmem
    · intro hna
      obtain ⟨⟨r, rfl⟩, hreason⟩ := hna
      rw [← VersionControl.Origin.code_eq_notAvailable] at hreason
      obtain rfl : code = c.origin.code := List.mem_singleton.1 hmem
      rw [hcode, hreason]

theorem render_failure_origin_unavailable :
    let c : Collaborators := ⟨.ok [], .unavailable "off", .fixed ⟨59, 0, by decide⟩ 0⟩
    render c.environment "\x7bt\x7d \x7bg?branch\x7d" = .error (.gitUnavailable "off") ∧
      ∃ segs s, split "\x7bt\x7d \x7bg?branch\x7d" = .ok segs ∧
        FailsFirst c.environment segs s (.gitUnavailable "off") ∧
          ∃ r, s = .placeholder (.git r) := by
  intro c
  have h : render c.environment "\x7bt\x7d \x7bg?branch\x7d" =
      .error (.gitUnavailable "off") := by decide +kernel
  have hok : split "\x7bt\x7d \x7bg?branch\x7d" =
      .ok [.placeholder (.time .empty), .text " ", .placeholder (.git .branch)] := rfl
  rcases (render_failure_origin c h).2 with ⟨hsplit, -⟩ | ⟨segs, s, hsplit, hfirst, -, -, hcode⟩
  · simp [hok] at hsplit
  · exact ⟨h, segs, s, hsplit, hfirst, (hcode.1 rfl).1⟩

end Template
end StatusLine
