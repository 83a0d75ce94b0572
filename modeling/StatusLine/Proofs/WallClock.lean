import StatusLine.Proofs.RoundedTimes

/-!
# The wall clock

A clock time is a time of day read off the clocks at the instant that its shift leads to. The shift
counts seconds of universal time, so only that instant decides which offset holds: nothing in
between matters, neither changes of the offset nor midnights, and the same text is shown by a clock
time without a shift when the present is that instant.
-/
namespace StatusLine

namespace Instant

theorem exists_shift? {t : Instant} {seconds : Int} :
    (∃ reached, t.shift? seconds = some reached) ↔
      minSecond ≤ t.secondAfter seconds ∧ t.secondAfter seconds ≤ maxSecond := by
  obtain ⟨hmin, hmax, -, -⟩ := t.valid
  by_cases hs : seconds = 0
  · subst hs
    simp [shift?, secondAfter, hmin, hmax]
  · have hnano : t.nano % 1000000000 < 1000000000 := Nat.mod_lt _ (by decide)
    have hvalid : IsValid (t.secondAfter seconds) (t.nano % 1000000000) ↔
        minSecond ≤ t.secondAfter seconds ∧ t.secondAfter seconds ≤ maxSecond := by
      unfold IsValid
      constructor
      · intro h
        obtain ⟨h1, h2, -, -⟩ := h
        exact ⟨h1, h2⟩
      · intro h
        obtain ⟨h1, h2⟩ := h
        exact ⟨h1, h2, by omega, fun h => absurd h (by omega)⟩
    rw [shift?, if_neg hs, ofParts?, ← hvalid]
    split <;> simp_all

theorem secondAfter_of_not_isLeap {t : Instant} (h : t.isLeap = false) (seconds : Int) :
    t.secondAfter seconds = t.second + seconds := by
  simp [secondAfter, h]

theorem shift?_eq_some {t reached : Instant} (h : t.isLeap = false) {seconds : Int} :
    t.shift? seconds = some reached ↔
      reached.second = t.second + seconds ∧ reached.nano = t.nano := by
  rw [shift?_of_not_isLeap h, ofParts?_eq_some]

theorem isShift_of_isSafe {seconds : Int} (h : Bounds.IsSafe seconds) : IsShift seconds := by
  unfold Bounds.IsSafe Bounds.safeMax at h
  unfold IsShift maxShift Bounds.signed64Max
  omega

theorem timeOfDay_eq_iff {t : Instant} {offset : Int} {wall : TimeOfDay} :
    t.timeOfDay offset = wall ↔
      (wall.second : Int) = (t.second + offset) % 86400 ∧ wall.nano = t.nano := by
  obtain ⟨second, nano, hsecond, hnano⟩ := wall
  simp only [timeOfDay, TimeOfDay.mk.injEq]
  omega

end Instant

def Environment.withNow (env : Environment) (now : Instant) : Environment :=
  { env with clock := { env.clock with now := now } }

namespace ClockTime

def unshifted (t : ClockTime) : ClockTime := { t with offset := some 0 }

@[simp] theorem unshifted_shift (t : ClockTime) : t.unshifted.shift = 0 := rfl

variable {env : Environment} {t : ClockTime}

def reading (t : ClockTime) (wall : TimeOfDay) : Except Fault TimeOfDay :=
  match t.round with
  | some r => wall.round r
  | none => .ok wall

theorem reading_eq_error {wall : TimeOfDay} {f : Fault} :
    t.reading wall = .error f ↔ ∃ r, t.round = some r ∧ ¬ r.IsValid ∧ f = .roundingInvalid r := by
  cases hround : t.round with
  | none => simp [reading, hround]
  | some r => simp [reading, hround, TimeOfDay.round_eq_error]

theorem render_of_reached (hsafe : Bounds.IsSafe t.shift) {reached : Instant}
    (h : env.clock.now.shift? t.shift = some reached) :
    t.render env = (fun time => String.ofList (time.format t.pattern.toList)) <$>
      t.reading (reached.timeOfDay (env.clock.offsetAt reached)) := by
  have hshift := Instant.isShift_of_isSafe hsafe
  cases hround : t.round with
  | none => simp [render, reading, hsafe, hshift, h, hround, map_eq_pure_bind]
  | some r => simp [render, reading, hsafe, hshift, h, hround, map_eq_pure_bind]

theorem render_cases (env : Environment) (t : ClockTime) :
    (¬ Bounds.IsSafe t.shift ∨ env.clock.now.shift? t.shift = none) ∧
        t.render env = .error (.timeOffsetInvalid t.shift) ∨
      Bounds.IsSafe t.shift ∧ ∃ reached, env.clock.now.shift? t.shift = some reached ∧
        t.render env = (fun time => String.ofList (time.format t.pattern.toList)) <$>
          t.reading (reached.timeOfDay (env.clock.offsetAt reached)) := by
  by_cases hsafe : Bounds.IsSafe t.shift
  · cases hreached : env.clock.now.shift? t.shift with
    | none =>
      refine Or.inl ⟨Or.inr rfl, ?_⟩
      have hshift := Instant.isShift_of_isSafe hsafe
      simp [render, hsafe, hshift, hreached]
    | some reached => exact Or.inr ⟨hsafe, reached, rfl, render_of_reached hsafe hreached⟩
  · exact Or.inl ⟨Or.inl hsafe, by simp [render, hsafe]⟩

theorem render_eq_ok {out : String} : t.render env = .ok out ↔
    Bounds.IsSafe t.shift ∧ ∃ reached shown, env.clock.now.shift? t.shift = some reached ∧
      t.reading (reached.timeOfDay (env.clock.offsetAt reached)) = .ok shown ∧
      out = String.ofList (shown.format t.pattern.toList) := by
  rcases render_cases env t with ⟨hshift, hrender⟩ | ⟨hsafe, reached, hreached, hrender⟩
  · rw [hrender]
    rcases hshift with hsafe | hreached
    · simp [hsafe]
    · simp [hreached]
  · rw [hrender, map_eq_ok]
    simp [hsafe, hreached, eq_comm (b := out)]

/-- What keeps a clock time from having a text: a shift that is not safe or leads out of the
calendar, or a rounding that is not valid. -/
def Fails (clock : Clock) (t : ClockTime) : Prop :=
  ¬ Bounds.IsSafe t.shift ∨
    ¬ (Instant.minSecond ≤ clock.now.second + t.shift ∧
      clock.now.second + t.shift ≤ Instant.maxSecond) ∨
    ∃ r, t.round = some r ∧ ¬ r.IsValid

theorem exists_error_iff (hnow : env.clock.now.isLeap = false) :
    (∃ f, t.render env = .error f) ↔ t.Fails env.clock := by
  have hreach := @Instant.exists_shift? env.clock.now t.shift
  rw [Instant.secondAfter_of_not_isLeap hnow] at hreach
  unfold Fails
  rw [← hreach]
  rcases render_cases env t with ⟨hshift, hrender⟩ | ⟨hsafe, reached, hreached, hrender⟩
  · rw [hrender]
    rcases hshift with hsafe | hreached
    · simp [hsafe]
    · simp [hreached]
  · rw [hrender]
    simp [map_eq_error, reading_eq_error, hsafe, hreached]

theorem render_error_cases {f : Fault} (h : t.render env = .error f) :
    f = .timeOffsetInvalid t.shift ∨ ∃ r, f = .roundingInvalid r := by
  rcases render_cases env t with ⟨-, hrender⟩ | ⟨-, reached, -, hrender⟩
  · rw [hrender] at h
    exact .inl (Except.error.inj h).symm
  · rw [hrender, map_eq_error] at h
    obtain ⟨r, -, -, rfl⟩ := reading_eq_error.1 h
    exact .inr ⟨r, rfl⟩

theorem render_error_report {f : Fault} (h : t.render env = .error f) :
    f.report.scope = .internal ∧ f.report.code = some .invalidDynamicValue := by
  rcases render_error_cases h with rfl | ⟨r, rfl⟩
  · exact ⟨rfl, rfl⟩
  · exact ⟨rfl, rfl⟩

theorem render_at_reached (hsafe : Bounds.IsSafe t.shift) {reached : Instant}
    (h : env.clock.now.shift? t.shift = some reached) :
    t.render env = t.unshifted.render (env.withNow reached) := by
  have hzero : Bounds.IsSafe t.unshifted.shift := by
    rw [unshifted_shift]
    decide
  have hstay : (env.withNow reached).clock.now.shift? t.unshifted.shift = some reached :=
    Instant.shift?_zero reached
  rw [render_of_reached hsafe h, render_of_reached hzero hstay]
  rfl

/-- A clock time shows the wall clock of the instant that it is shifted to. It fails in the three
ways that are listed, each an internal failure; else its text is the time of day there, rounded when
there is a rounding and written through the pattern. The offset is the one that holds at that
instant, for any rule of offsets, and so the text is that of no shift at all once the present is
that instant. -/
theorem render_shows_wall_clock (env : Environment) (t : ClockTime)
    (hnow : env.clock.now.isLeap = false) :
    ((∃ f, t.render env = .error f) ↔ t.Fails env.clock) ∧
    (∀ f, t.render env = .error f →
      f.report.scope = .internal ∧ f.report.code = some .invalidDynamicValue) ∧
    (∀ out, t.render env = .ok out ↔ Bounds.IsSafe t.shift ∧
      ∃ (reached : Instant) (wall shown : TimeOfDay),
        reached.second = env.clock.now.second + t.shift ∧ reached.nano = env.clock.now.nano ∧
        (wall.second : Int) = (reached.second + env.clock.offsetAt reached) % 86400 ∧
        wall.nano = reached.nano ∧ t.reading wall = .ok shown ∧
        out = String.ofList (shown.format t.pattern.toList)) ∧
    ∀ reached : Instant, Bounds.IsSafe t.shift →
      reached.second = env.clock.now.second + t.shift → reached.nano = env.clock.now.nano →
      t.render env = t.unshifted.render (env.withNow reached) := by
  refine ⟨exists_error_iff hnow, fun f => render_error_report, fun out => ?_, ?_⟩
  · rw [render_eq_ok]
    refine and_congr_right fun _ => exists_congr fun reached => ?_
    constructor
    · intro h
      obtain ⟨shown, hreached, hshown, rfl⟩ := h
      obtain ⟨hsecond, hnano⟩ := (Instant.shift?_eq_some hnow).1 hreached
      obtain ⟨hwall, hwallNano⟩ := Instant.timeOfDay_eq_iff.1 rfl
      exact ⟨_, shown, hsecond, hnano, hwall, hwallNano, hshown, rfl⟩
    · intro h
      obtain ⟨wall, shown, hsecond, hnano, hwall, hwallNano, hshown, rfl⟩ := h
      obtain rfl := Instant.timeOfDay_eq_iff.2 ⟨hwall, hwallNano⟩
      exact ⟨shown, (Instant.shift?_eq_some hnow).2 ⟨hsecond, hnano⟩, hshown, rfl⟩
  · intro reached hsafe hsecond hnano
    exact render_at_reached hsafe ((Instant.shift?_eq_some hnow).2 ⟨hsecond, hnano⟩)

/-- Half past midnight at winter time, an hour and the start of summer time before half past three:
rounded to twenty minutes, the tie goes up. -/
theorem render_across_change :
    ClockTime.render ⟨.ok [], .fixed none none, .zoned ⟨1711845000, 0, by decide⟩ 3600
        [(⟨1711846800, 0, by decide⟩, 7200)]⟩
      ⟨some 3600, some ⟨20, .minutes, .nearest⟩, none⟩ = .ok "03:40" := by
  refine ((render_shows_wall_clock _ _ ?_).2.2.1 _).2 ⟨by decide, ⟨1711848600, 0, by decide⟩,
    ⟨12600, 0, by decide, by decide⟩, ⟨13200, 0, by decide, by decide⟩, rfl, rfl, rfl, rfl, rfl, ?_⟩
  · rfl
  · decide +kernel

end ClockTime
end StatusLine
