import StatusLine.Command.Run
import StatusLine.Proofs.JsonRecords
import StatusLine.Proofs.TemplateWriting

/-!
# The JSON of a template

A placeholder whose numbers fit in their words is read back from its JSON, in whatever order the
members of the object come. Segments are told apart by what their JSON is, a string or an object, so
that what `parse` prints determines them.
-/
namespace StatusLine

namespace Rounding

theorem ofJson?_toJson {r : Rounding} (h : r.increment ≤ Bounds.word32Max) :
    ofJson? r.toJson = some r := by
  have hword : Bounds.IsWord32 (r.increment : Int) := ⟨by omega, by omega⟩
  simp [ofJson?, toJson, Json.integer?, Json.looseName?, Json.name?, TimeUnit.ofName?_name,
    Direction.ofName?_name, Option.filter_some, hword]

end Rounding

namespace Placeholder

def Fits : Placeholder → Prop
  | directory d => ∀ n, d.offset = some n → Bounds.IsSigned64 n
  | git _ => True
  | input _ => True
  | time t => (∀ n, t.offset = some n → Bounds.IsSigned64 n) ∧
      ∀ r, t.round = some r → r.increment ≤ Bounds.word32Max

theorem IsWritable.fits {p : Placeholder} (h : p.IsWritable) : p.Fits := by
  cases p with
  | directory d =>
    intro n hn
    have hsafe : Bounds.IsSafe n := ⟨by have := (h.offset n hn).1; omega, (h.offset n hn).2⟩
    exact hsafe.isSigned64
  | git r => trivial
  | input i => trivial
  | time t =>
    refine ⟨fun n hn => (h.offset n hn).2.isSigned64, fun r hr => ?_⟩
    have hlt := (h.round r hr).increment_lt
    exact Nat.le_trans (Nat.le_of_lt hlt) (by decide)

theorem offset?_integer {n : Int} (h : Bounds.IsSigned64 n) : offset? (.integer n) = some n := by
  simp [offset?, Json.integer?, h]

/-! Each field is found where it is set, and missing where it is not. -/

theorem fields?_directory (d : DirectoryName) :
    Json.fields? ["directoryOffset", "inputWordFormat", "reformatWordCasing", "outputWordJoiner"]
      (.object (directory d).members) =
        some [d.offset.map .integer, d.format.map fun f => .string f.name,
          d.casing.map fun c => .string c.name, d.joiner.map .string] := by
  obtain ⟨offset, format, casing, joiner⟩ := d
  cases offset <;> cases format <;> cases casing <;> cases joiner <;> rfl

theorem fields?_input (i : InputChoice) :
    Json.fields? ["mandatoryValues", "optionalValues"] (.object (input i).members) =
      some [i.mandatory.map strings, i.optional.map strings] := by
  obtain ⟨mandatory, optional⟩ := i
  cases mandatory <;> cases optional <;> rfl

theorem fields?_time (t : ClockTime) :
    Json.fields? ["offset", "round", "format"] (.object (time t).members) =
      some [t.offset.map .integer, t.round.map Rounding.toJson, t.format.map .string] := by
  obtain ⟨offset, round, format⟩ := t
  cases offset <;> cases round <;> cases format <;> rfl

theorem ofKind?_members {p : Placeholder} (h : p.Fits) {ms : List (String × Json)}
    (hms : p.members.Perm ms) : ofKind? p.kind (.object ms) = some p := by
  cases p with
  | directory d =>
    have hread : directoryOfJson? (.object ms) = some d := by
      have hoffset := Json.optional_map offset? .integer rfl
        fun n hn => offset?_integer (h n hn)
      have hformat := Json.optional_map (v := d.format) (·.looseName?.bind WordFormat.ofName?)
        (.string ·.name) rfl fun f _ => WordFormat.ofName?_name f
      have hcasing := Json.optional_map (v := d.casing) (·.looseName?.bind WordCasing.ofName?)
        (.string ·.name) rfl fun c _ => WordCasing.ofName?_name c
      have hjoiner := Json.optional_map (v := d.joiner) Json.string? .string rfl fun _ _ => rfl
      rw [directoryOfJson?, ← Json.fields?_perm hms, fields?_directory]
      simp [hoffset, hformat, hcasing, hjoiner]
    exact congrArg (directory <$> ·) hread
  | git r =>
    obtain rfl := List.singleton_perm.1 hms
    cases r <;> rfl
  | input i =>
    have hread : inputOfJson? (.object ms) = some i := by
      have hlist : ∀ ss, Json.list? Json.string? (strings ss) = some ss :=
        Json.list?_map fun _ => rfl
      have hmandatory := Json.optional_map (v := i.mandatory) (Json.list? Json.string?) strings rfl
        fun ss _ => hlist ss
      have hoptional := Json.optional_map (v := i.optional) (Json.list? Json.string?) strings rfl
        fun ss _ => hlist ss
      rw [inputOfJson?, ← Json.fields?_perm hms, fields?_input]
      simp [hmandatory, hoptional]
    exact congrArg (input <$> ·) hread
  | time t =>
    have hread : timeOfJson? (.object ms) = some t := by
      have hoffset := Json.optional_map offset? .integer rfl
        fun n hn => offset?_integer (h.1 n hn)
      have hround := Json.optional_map Rounding.ofJson? Rounding.toJson rfl
        fun r hr => Rounding.ofJson?_toJson (h.2 r hr)
      have hformat := Json.optional_map (v := t.format) Json.string? .string rfl fun _ _ => rfl
      rw [timeOfJson?, ← Json.fields?_perm hms, fields?_time]
      simp [hoffset, hround, hformat]
    exact congrArg (time <$> ·) hread

theorem mem_member {α : Type} {key : String} {write : α → Json} {v : Option α}
    {m : String × Json} : m ∈ member key write v ↔ ∃ a, v = some a ∧ m = (key, write a) := by
  cases v <;> simp [member]

/-- No field is called `type` or holds an object, and each has a text. -/
theorem of_mem_members {p : Placeholder} (h : p.Fits) {m : String × Json} (hm : m ∈ p.members) :
    m.1 ≠ "type" ∧ m.2.HasNoObject ∧ m.2.HasText := by
  have hinteger : ∀ {n : Int}, Bounds.IsSigned64 n → (Json.integer n).HasText := by
    intro n hn
    unfold Bounds.IsSigned64 Bounds.signed64Max at hn
    change n.natAbs ≤ Bounds.word64Max
    unfold Bounds.word64Max
    omega
  have hstrings : ∀ ss, (strings ss).HasNoObject ∧ (strings ss).HasText := fun ss =>
    ⟨Json.allHaveNoObject_map .string (fun _ => trivial) ss,
      Json.allHaveText_map .string fun _ _ => trivial⟩
  cases p with
  | directory d =>
    simp only [members, List.mem_append, mem_member] at hm
    rcases hm with ((⟨n, hn, rfl⟩ | ⟨f, -, rfl⟩) | ⟨c, -, rfl⟩) | ⟨s, -, rfl⟩
    · exact ⟨by simp, trivial, hinteger (h n hn)⟩
    · exact ⟨by simp, trivial, trivial⟩
    · exact ⟨by simp, trivial, trivial⟩
    · exact ⟨by simp, trivial, trivial⟩
  | git r =>
    obtain rfl := List.mem_singleton.1 hm
    exact ⟨by simp, trivial, trivial⟩
  | input i =>
    simp only [members, List.mem_append, mem_member] at hm
    rcases hm with ⟨ss, -, rfl⟩ | ⟨ss, -, rfl⟩
    · exact ⟨by simp, hstrings ss⟩
    · exact ⟨by simp, hstrings ss⟩
  | time t =>
    simp only [members, List.mem_append, mem_member] at hm
    rcases hm with (⟨n, hn, rfl⟩ | ⟨r, hr, rfl⟩) | ⟨s, -, rfl⟩
    · exact ⟨by simp, trivial, hinteger (h.1 n hn)⟩
    · have hr := h.2 r hr
      refine ⟨by simp, ⟨trivial, trivial, trivial, trivial⟩, ?_, trivial, trivial, trivial⟩
      exact Nat.le_trans hr (by decide)
    · exact ⟨by simp, trivial, trivial⟩

theorem hasText {p : Placeholder} (h : p.Fits) : p.toJson.HasText :=
  ⟨trivial, Json.membersHaveText_iff.2 fun _ hm => (of_mem_members h hm).2.2⟩

theorem ofJson?_perm {p : Placeholder} (h : p.Fits) {os : List (String × Json)}
    (hos : (("type", Json.string p.kind) :: p.members).Perm os) :
    ofJson? (.object os) = some p := by
  have hkeys : ∀ m ∈ p.members, m.1 ≠ "type" := fun m hm => (of_mem_members h hm).1
  have htype : Json.field? os "type" = some (some (.string p.kind)) := by
    have hnone : p.members.filter (·.1 == "type") = [] :=
      List.filter_eq_nil_iff.2 fun m hm => by simpa using hkeys m hm
    rw [← Json.field?_perm hos, Json.field?, List.filter_cons_of_pos (by rfl), hnone]
  have hrest : p.members.Perm (os.filter (·.1 != "type")) := by
    have hall : p.members.filter (·.1 != "type") = p.members :=
      List.filter_eq_self.2 fun m hm => by simpa using hkeys m hm
    have hfilter := hos.filter (·.1 != "type")
    rwa [List.filter_cons_of_neg (by simp), hall] at hfilter
  rw [ofJson?, htype]
  exact ofKind?_members h hrest

theorem ofJson?_of_same {p : Placeholder} (h : p.Fits) {w : Json} (hw : p.toJson.Same w) :
    ofJson? w = some p := by
  obtain ⟨os, rfl, hperm⟩ := hw.of_object fun m hm => by
    rcases List.mem_cons.1 hm with rfl | hm
    · trivial
    · exact (of_mem_members h hm).2.1
  exact ofJson?_perm h hperm

end Placeholder

namespace Segment

/-- The segment that a value was written for. The program has no reader of segments. -/
def ofJson? : Json → Option Segment
  | .string s => some (.text s)
  | v => .placeholder <$> Placeholder.ofJson? v

def Fits : Segment → Prop
  | text _ => True
  | placeholder p => p.Fits

theorem IsWritable.fits {s : Segment} (h : s.IsWritable) : s.Fits := by
  cases s with
  | text s => trivial
  | placeholder p => exact Placeholder.IsWritable.fits h

theorem hasText {s : Segment} (h : s.Fits) : s.toJson.HasText := by
  cases s with
  | text s => trivial
  | placeholder p => exact Placeholder.hasText h

theorem ofJson?_of_same {s : Segment} (h : s.Fits) {w : Json} (hw : s.toJson.Same w) :
    ofJson? w = some s := by
  cases s with
  | text s =>
    obtain rfl := hw.eq trivial
    rfl
  | placeholder p =>
    have hread := Placeholder.ofJson?_of_same h hw
    cases w with
    | string s => simp [Placeholder.ofJson?] at hread
    | _ => exact congrArg (Segment.placeholder <$> ·) hread

end Segment

namespace Template

theorem hasText {segs : List Segment} (h : ∀ s ∈ segs, s.Fits) : (toJson segs).HasText :=
  Json.allHaveText_map _ fun s hs => Segment.hasText (h s hs)

theorem list?_of_same {segs : List Segment} (h : ∀ s ∈ segs, s.Fits) {w : Json}
    (hw : (toJson segs).Same w) : Json.list? Segment.ofJson? w = some segs := by
  obtain ⟨ws, rfl, hws⟩ := hw.of_array
  exact hws.mapM fun s hs v hv => Segment.ofJson?_of_same (h s hs) hv

theorem eq_of_same {segs other : List Segment} (h : ∀ s ∈ segs, s.Fits)
    (hother : ∀ s ∈ other, s.Fits) (hsame : (toJson segs).Same (toJson other)) : segs = other := by
  have hread := list?_of_same h hsame
  rw [list?_of_same hother (.refl _)] at hread
  exact (Option.some.inj hread).symm

end Template

namespace Command

theorem read?_parse {w : Surroundings} {fs : Files} {t : String}
    (h : ((parse t).run w fs).exit = 0) :
    ∃ segs, Template.split t = .ok segs ∧ (∀ s ∈ segs, s.Fits) ∧
      Json.read? ((parse t).run w fs).stdout = some (Template.toJson segs) := by
  cases hsplit : Template.split t with
  | error f => simp only [run, perform, hsplit, Job.run_error_bind, Nat.one_ne_zero] at h
  | ok segs =>
    have hfits : ∀ s ∈ segs, s.Fits := fun s hs =>
      ((Template.isWritable_of_split hsplit).segment s hs).fits
    have hrun : ((parse t).run w fs).stdout = (Template.toJson segs).pretty ++ "\n" := by
      simp only [run, perform, hsplit, Job.run_ok_bind, Job.run_pure]
    refine ⟨segs, rfl, hfits, ?_⟩
    rw [hrun, Json.read?_pretty_line (Template.hasText hfits)]

end Command

/-- A placeholder is read back from its JSON and from both texts of it, the JSON of segments is that
of no others, and what `parse` prints is read as the JSON of the segments of its template. -/
theorem Template.json_determines_segments :
    (∀ p : Placeholder, p.Fits →
      (∀ w, p.toJson.Same w → Placeholder.ofJson? w = some p) ∧
      (Json.read? p.toJson.compact).bind Placeholder.ofJson? = some p ∧
      (Json.read? p.toJson.pretty).bind Placeholder.ofJson? = some p) ∧
    (∀ segs other : List Segment, (∀ s ∈ segs, s.Fits) → (∀ s ∈ other, s.Fits) →
      (toJson segs).Same (toJson other) → segs = other) ∧
    ∀ (w w' : Surroundings) (fs fs' : Files) (t t' : String),
      ((Command.parse t).run w fs).exit = 0 → ((Command.parse t').run w' fs').exit = 0 →
      ∃ v v', Json.read? ((Command.parse t).run w fs).stdout = some v ∧
        Json.read? ((Command.parse t').run w' fs').stdout = some v' ∧
        (v.Same v' → ∃ segs, split t = .ok segs ∧ split t' = .ok segs) := by
  refine ⟨fun p h => ⟨fun w hw => Placeholder.ofJson?_of_same h hw, ?_, ?_⟩,
    fun segs other h hother hsame => eq_of_same h hother hsame, ?_⟩
  · rw [Json.read?_compact (Placeholder.hasText h), Option.bind_some]
    exact Placeholder.ofJson?_of_same h (.refl _)
  · rw [Json.read?_pretty (Placeholder.hasText h), Option.bind_some]
    exact Placeholder.ofJson?_of_same h (.refl _)
  · intro w w' fs fs' t t' h h'
    obtain ⟨segs, hsplit, hfits, hread⟩ := Command.read?_parse h
    obtain ⟨other, hsplit', hfits', hread'⟩ := Command.read?_parse h'
    refine ⟨_, _, hread, hread', fun hsame => ⟨segs, hsplit, ?_⟩⟩
    rw [eq_of_same hfits hfits' hsame, hsplit']

/-- Numbers at the ends of their words, both lists at once and members in another order. -/
theorem Template.json_determines_segments_extremes :
    (Json.read? (Placeholder.time ⟨some (-9223372036854775808), some ⟨4294967295, .hours, .down⟩,
      some "\"\\"⟩).toJson.compact).bind Placeholder.ofJson? =
        some (.time ⟨some (-9223372036854775808), some ⟨4294967295, .hours, .down⟩,
          some "\"\\"⟩) ∧
    Placeholder.ofJson? (.object [("optionalValues", .array []),
      ("mandatoryValues", .array [.string ""]), ("type", .string "input")]) =
        some (.input ⟨some [""], some []⟩) := by
  refine ⟨(json_determines_segments.1 _ ?_).2.1, ?_⟩
  · refine ⟨fun n hn => ?_, fun r hr => ?_⟩
    · obtain rfl := Option.some.inj hn
      decide
    · obtain rfl := Option.some.inj hr
      decide
  · refine (json_determines_segments.1 (.input ⟨some [""], some []⟩) trivial).1 _ ?_
    exact .object (.cons (.refl _) (.cons (.refl _) (.cons (.refl _) .nil)))
      (List.reverse_perm _).symm

end StatusLine
