import StatusLine.Proofs.TemplateWriting
import StatusLine.Proofs.WallClock

/-!
# What parses renders

A placeholder that is read from a template passes every check that rendering makes again, so only
the environment decides whether it has a value. `Shows` says what that value is and `Satisfiable`
when there is one; neither mentions a check. A template has a text exactly when each of its
placeholders is satisfiable by itself, and the text is the values one after another.
-/
namespace StatusLine

namespace DirectoryPath

theorem ne_root_of_ofPiece {leading : Bool} {piece : List UInt8} {c : Component}
    (h : ofPiece leading piece = some c) : c ≠ .root := by
  intro heq
  subst heq
  unfold ofPiece at h
  split_ifs at h <;> simp at h

theorem ne_root_of_mem_tail {path : List UInt8} {c : Component} (h : c ∈ (components path).tail) :
    c ≠ .root := by
  have hpieces : ∀ pieces : List (List UInt8),
      c ∈ pieces.filterMap (ofPiece false) → c ≠ .root := by
    intro pieces hc
    obtain ⟨piece, -, hpiece⟩ := List.mem_filterMap.1 hc
    exact ne_root_of_ofPiece hpiece
  unfold components at h
  split at h
  · simp at h
  · simp only at h
    split_ifs at h
    · exact hpieces _ h
    · rcases List.mem_append.1 (List.mem_of_mem_tail h) with hc | hc
      · exact ne_root_of_ofPiece (Option.mem_toList.1 hc)
      · exact hpieces _ hc

/-- A climb takes components away one by one. It stops early only at the root, and nothing is
behind the root. -/
theorem head?_climb {cs : List Component} (h : ∀ c ∈ cs.dropLast, c ≠ .root) (n : Nat)
    (bytes : List UInt8) :
    (climb n cs).head? = some (.name bytes) ↔ cs[n]? = some (.name bytes) := by
  induction n generalizing cs with
  | zero => rw [climb, List.head?_eq_getElem?]
  | succ n ih =>
    match cs with
    | [] => simp [climb_nil]
    | [.root] => simp [climb, up?]
    | .root :: c :: cs => exact absurd rfl (h .root (by simp))
    | .current :: cs | .parent :: cs | .name _ :: cs =>
      have hcs : ∀ c ∈ cs.dropLast, c ≠ .root := by
        intro c hc
        cases cs with
        | nil => simp at hc
        | cons d cs => exact h c (by simp [hc])
      simpa [climb, up?] using ih hcs

theorem nameAbove?_eq_some_head? {levels : Nat} {path bytes : List UInt8} :
    nameAbove? levels path = some bytes ↔
      (climb levels (components path).reverse).head? = some (.name bytes) := by
  unfold nameAbove?
  split
  case h_1 b cs hcs => simp [hcs]
  case h_2 hne =>
    simp only [reduceCtorEq, false_iff]
    intro hhead
    obtain ⟨cs, hcs⟩ := List.head?_eq_some_iff.1 hhead
    exact hne _ _ hcs

theorem nameAbove?_eq_some {levels : Nat} {path bytes : List UInt8} :
    nameAbove? levels path = some bytes ↔
      (components path).reverse[levels]? = some (.name bytes) := by
  have hroot : ∀ c ∈ (components path).reverse.dropLast, c ≠ .root := by
    intro c hc
    rw [List.dropLast_reverse, List.mem_reverse] at hc
    exact ne_root_of_mem_tail hc
  rw [← head?_climb hroot, nameAbove?_eq_some_head?]

end DirectoryPath

namespace ClockTime

def rounded (t : ClockTime) (time : TimeOfDay) : TimeOfDay :=
  match t.round with
  | none => time
  | some r =>
    let size := r.seconds * 1000000000
    .ofNanos (Rounding.steps r.direction size time.nanos * size)

def textAt (t : ClockTime) (time : TimeOfDay) : String :=
  String.ofList ((t.rounded time).format t.pattern.toList)

end ClockTime

namespace Placeholder

/-- The text of a placeholder, from what the environment answers. -/
inductive Shows (env : Environment) : Placeholder → String → Prop
  | directory {d : DirectoryName} {path name : List UInt8} (hpath : env.directory = .ok path)
    (hname : (DirectoryPath.components path).reverse[d.levels.toNat]? = some (.name name)) :
    Shows env (.directory d) (d.restyle (Utf8.decode name))
  | branch {name : String} (h : env.versionControl.branchName headReference = .ok (some name)) :
    Shows env (.git .branch) name
  | commit {hash : String} (h : env.versionControl.commitHash headReference = .ok hash) :
    Shows env (.git .commit) (String.ofList (hash.toList.take shortHashLength))
  | time {t : ClockTime} {reached : Instant} (h : env.clock.now.shift? t.shift = some reached) :
    Shows env (.time t) (t.textAt (reached.timeOfDay (env.clock.offsetAt reached)))

def Satisfiable (env : Environment) : Placeholder → Prop
  | directory d => ∃ path name, env.directory = .ok path ∧
    (DirectoryPath.components path).reverse[d.levels.toNat]? = some (.name name)
  | git .branch => ∃ name, env.versionControl.branchName headReference = .ok (some name)
  | git .commit => ∃ hash, env.versionControl.commitHash headReference = .ok hash
  | input _ => False
  | time t => Instant.minSecond ≤ env.clock.now.secondAfter t.shift ∧
    env.clock.now.secondAfter t.shift ≤ Instant.maxSecond

def PassesChecks : Placeholder → Prop
  | directory d => Bounds.IsSafeIndex d.levels
  | git _ | input _ => True
  | time t => Bounds.IsSafe t.shift ∧ Instant.IsShift t.shift ∧
    ∀ r, t.round = some r → r.IsValid ∧ ∀ time : TimeOfDay, (time.round? r).isSome

theorem exists_shows {env : Environment} {p : Placeholder} :
    (∃ value, p.Shows env value) ↔ p.Satisfiable env := by
  constructor
  · intro h
    obtain ⟨value, h⟩ := h
    cases h with
    | directory hpath hname => exact ⟨_, _, hpath, hname⟩
    | branch h => exact ⟨_, h⟩
    | commit h => exact ⟨_, h⟩
    | time h => exact Instant.exists_shift?.1 ⟨_, h⟩
  · intro h
    match p, h with
    | directory d, ⟨path, name, hpath, hname⟩ => exact ⟨_, .directory hpath hname⟩
    | git .branch, ⟨name, hname⟩ => exact ⟨_, .branch hname⟩
    | git .commit, ⟨hash, hhash⟩ => exact ⟨_, .commit hhash⟩
    | time t, h =>
      obtain ⟨reached, hreached⟩ := Instant.exists_shift?.2 h
      exact ⟨_, .time hreached⟩

theorem IsWritable.passesChecks {p : Placeholder} (h : p.IsWritable) : p.PassesChecks := by
  cases p with
  | directory d =>
    obtain ⟨hoffset, -⟩ := h
    cases ho : d.offset with
    | none => simp [PassesChecks, DirectoryName.levels, ho, Bounds.IsSafeIndex]
    | some n => simpa [PassesChecks, DirectoryName.levels, ho] using hoffset n ho
  | git r => trivial
  | input i => trivial
  | time t =>
    obtain ⟨hoffset, hround, -⟩ := h
    have hsafe : Bounds.IsSafe t.shift := by
      cases ho : t.offset with
      | none => simp [ClockTime.shift, ho, Bounds.IsSafe]
      | some n => simpa [ClockTime.shift, ho] using (hoffset n ho).2
    refine ⟨hsafe, Instant.isShift_of_isSafe hsafe, ?_⟩
    intro r hr
    have hvalid := hround r hr
    exact ⟨hvalid, fun time => (time.round?_isSome_iff r).2 hvalid⟩

theorem render_directory_eq_ok {env : Environment} {d : DirectoryName} {value : String}
    (h : PassesChecks (.directory d)) :
    d.render env = .ok value ↔ Shows env (.directory d) value := by
  have hsafe : Bounds.IsSafeIndex d.levels := h
  constructor
  · intro hv
    simp only [DirectoryName.render, hsafe, not_true_eq_false, if_false] at hv
    obtain ⟨path, hpath, hv⟩ := bind_eq_ok.1 hv
    split at hv
    case h_1 name hname =>
      obtain rfl := Except.ok.inj hv
      exact .directory hpath (DirectoryPath.nameAbove?_eq_some.1 hname)
    case h_2 => simp at hv
  · intro h
    obtain ⟨hpath, hname⟩ := h
    have hname := DirectoryPath.nameAbove?_eq_some.2 hname
    simp [DirectoryName.render, hsafe, hpath, hname]

theorem render_git_eq_ok {env : Environment} {r : GitReference} {value : String} :
    r.render env = .ok value ↔ Shows env (.git r) value := by
  cases r with
  | branch =>
    constructor
    · intro hv
      obtain ⟨name?, hname, hv⟩ := bind_eq_ok.1 hv
      cases name? with
      | none => simp at hv
      | some name =>
        obtain rfl := Except.ok.inj hv
        exact .branch hname
    · intro h
      obtain ⟨hname⟩ := h
      simp [GitReference.render, *]
  | commit =>
    constructor
    · intro hv
      obtain ⟨hash, hhash, hv⟩ := bind_eq_ok.1 hv
      obtain rfl := Except.ok.inj hv
      exact .commit hhash
    · intro h
      obtain ⟨hhash⟩ := h
      simp [GitReference.render, *]

theorem render_time_eq_ok {env : Environment} {t : ClockTime} {value : String}
    (h : PassesChecks (.time t)) : t.render env = .ok value ↔ Shows env (.time t) value := by
  obtain ⟨hsafe, -, hround⟩ := h
  have hreading : ∀ wall, t.reading wall = .ok (t.rounded wall) := by
    intro wall
    cases hr : t.round with
    | none => simp [ClockTime.reading, ClockTime.rounded, hr]
    | some r =>
      have hvalid : r.IsValid := (hround r hr).1
      simp [ClockTime.reading, ClockTime.rounded, hr, TimeOfDay.round_of_isValid hvalid,
        Rounding.size]
  rw [ClockTime.render_eq_ok]
  constructor
  · intro hv
    obtain ⟨-, reached, shown, hreached, hshown, rfl⟩ := hv
    rw [hreading] at hshown
    obtain rfl := Except.ok.inj hshown
    exact .time hreached
  · intro hv
    cases hv with
    | time hreached => exact ⟨hsafe, _, _, hreached, hreading _, rfl⟩

theorem render_eq_ok {env : Environment} {p : Placeholder} {value : String}
    (h : p.PassesChecks) : p.render env = .ok value ↔ p.Shows env value := by
  cases p with
  | directory d => exact render_directory_eq_ok h
  | git r => exact render_git_eq_ok
  | input i =>
    constructor
    · intro hv
      simp [render] at hv
    · intro h
      cases h
  | time t => exact render_time_eq_ok h

end Placeholder

def Segment.Shows (env : Environment) : Segment → String → Prop
  | .text s, value => value = s
  | .placeholder p, value => p.Shows env value

namespace Template

theorem passesChecks_of_split {t : String} {segs : List Segment} (h : split t = .ok segs)
    {p : Placeholder} (hp : .placeholder p ∈ segs) : p.PassesChecks := by
  have hwritable : p.IsWritable := (isWritable_of_split h).segment (.placeholder p) hp
  exact hwritable.passesChecks

theorem render_segment_eq_ok {t : String} {segs : List Segment} (h : split t = .ok segs)
    {env : Environment} {s : Segment} (hs : s ∈ segs) {value : String} :
    s.render env = .ok value ↔ s.Shows env value := by
  cases s with
  | text s => simp [Segment.render, Segment.Shows, eq_comm]
  | placeholder p => exact Placeholder.render_eq_ok (passesChecks_of_split h hs)

theorem render_eq_ok {t : String} {segs : List Segment} (h : split t = .ok segs)
    {env : Environment} {out : String} :
    render env t = .ok out ↔
      ∃ values, List.Forall₂ (Segment.Shows env) segs values ∧ out = String.join values := by
  have hsegment : ∀ s ∈ segs, ∀ value, s.render env = .ok value ↔ s.Shows env value :=
    fun s hs value => render_segment_eq_ok h hs
  rw [render, bind_eq_ok]
  simp only [h, Except.ok.injEq, exists_eq_left', renderSegments, map_eq_ok, mapM_eq_ok hsegment]
  exact exists_congr fun values => and_congr_right fun _ => eq_comm

theorem exists_shows {env : Environment} {segs : List Segment} :
    (∃ values, List.Forall₂ (Segment.Shows env) segs values) ↔
      ∀ p, .placeholder p ∈ segs → p.Satisfiable env := by
  rw [exists_forall₂]
  constructor
  · intro h p hp
    exact Placeholder.exists_shows.1 (h (.placeholder p) hp)
  · intro h s hs
    cases s with
    | text s => exact ⟨s, rfl⟩
    | placeholder p => exact Placeholder.exists_shows.2 (h p hs)

/-- A template that can be split has a text unless the environment withholds an answer. Its
placeholders pass the checks made in rendering, it is rendered when each of them is satisfiable by
itself, and the text is what the segments show, in order and as it is. -/
theorem render_of_split {t : String} {segs : List Segment} (h : split t = .ok segs)
    (env : Environment) :
    (∀ p, .placeholder p ∈ segs → p.PassesChecks) ∧
      ((∃ out, render env t = .ok out) ↔ ∀ p, .placeholder p ∈ segs → p.Satisfiable env) ∧
      ∀ out, render env t = .ok out ↔
        ∃ values, List.Forall₂ (Segment.Shows env) segs values ∧ out = String.join values := by
  refine ⟨fun p hp => passesChecks_of_split h hp, ?_, fun out => render_eq_ok h⟩
  rw [← exists_shows]
  constructor
  · intro h
    obtain ⟨out, hout⟩ := h
    obtain ⟨values, hvalues, -⟩ := (render_eq_ok h).1 hout
    exact ⟨values, hvalues⟩
  · intro h
    obtain ⟨values, hvalues⟩ := h
    exact ⟨_, (render_eq_ok h).2 ⟨values, hvalues, rfl⟩⟩

theorem render_of_split_branch :
    split "\x7bt+1h,~30m\x7d \x7bg?branch\x7d" =
        .ok [.placeholder (.time ⟨some 3600, some ⟨30, .minutes, .nearest⟩, none⟩), .text " ",
          .placeholder (.git .branch)] ∧
      render ⟨.ok [], .fixed (some "a\x7db") none, .fixed ⟨59, 0, by decide⟩ 0⟩
        "\x7bt+1h,~30m\x7d \x7bg?branch\x7d" = .ok "01:00 a\x7db" := by
  have hsplit : split "\x7bt+1h,~30m\x7d \x7bg?branch\x7d" =
      .ok [.placeholder (.time ⟨some 3600, some ⟨30, .minutes, .nearest⟩, none⟩), .text " ",
        .placeholder (.git .branch)] := rfl
  have hshift : Instant.shift? ⟨59, 0, by decide⟩ 3600 = some ⟨3659, 0, by decide⟩ := rfl
  have htext : ClockTime.textAt ⟨some 3600, some ⟨30, .minutes, .nearest⟩, none⟩
      (Instant.timeOfDay ⟨3659, 0, by decide⟩ 0) = "01:00" := by decide +kernel
  refine ⟨hsplit, ((render_of_split hsplit _).2.2 _).2 ⟨["01:00", " ", "a\x7db"], ?_, rfl⟩⟩
  exact .cons (htext ▸ .time hshift) (.cons rfl (.cons (.branch rfl) .nil))

end Template
end StatusLine
