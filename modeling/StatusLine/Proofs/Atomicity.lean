import StatusLine.Command.Run

/-!
# A failing command leaves the files alone

A job is atomic if the files are as they were whenever it fails. To read before an atomic job keeps
that, and so does what never fails after it. Every command reads first and saves at most once, and
only what cannot fail comes after the save.
-/
namespace StatusLine

namespace Job
variable {α β : Type}

def OnlyReads (x : Job α) : Prop := ∀ fs, (x.run fs).2 = fs

def NeverFails (x : Job α) : Prop := ∀ fs fault fs', x.run fs ≠ (.error fault, fs')

def IsAtomic (x : Job α) : Prop := ∀ fs fault fs', x.run fs = (.error fault, fs') → fs' = fs

theorem onlyReads_get : OnlyReads get := fun _ => rfl

theorem onlyReads_lift (x : Except Fault α) : OnlyReads (liftM x) := fun _ => rfl

theorem onlyReads_throw (fault : Fault) : OnlyReads (throw fault : Job α) := fun _ => rfl

theorem neverFails_pure (a : α) : NeverFails (pure a) := fun fs fault fs' h => by simp at h

theorem neverFails_set (fs : Files) : NeverFails (set fs) := fun fs₁ fault fs' h => by simp at h

theorem neverFails_attempt (x : Job Unit) : NeverFails x.attempt :=
  fun fs fault fs' h => by simp [run_attempt] at h

theorem OnlyReads.isAtomic {x : Job α} (hx : OnlyReads x) : IsAtomic x := by
  intro fs fault fs' h
  have hfs := hx fs
  rwa [h] at hfs

theorem NeverFails.isAtomic {x : Job α} (hx : NeverFails x) : IsAtomic x :=
  fun fs fault fs' h => absurd h (hx fs fault fs')

theorem NeverFails.bind {x : Job α} {f : α → Job β} (hx : NeverFails x)
    (hf : ∀ a, NeverFails (f a)) : NeverFails (x >>= f) := by
  intro fs fault fs' h
  rw [run_bind] at h
  rcases hrun : x.run fs with ⟨e | a, fs₁⟩
  · exact hx fs e fs₁ hrun
  · rw [hrun] at h
    exact hf a fs₁ fault fs' h

theorem OnlyReads.bind_isAtomic {x : Job α} {f : α → Job β} (hx : OnlyReads x)
    (hf : ∀ a, IsAtomic (f a)) : IsAtomic (x >>= f) := by
  intro fs fault fs' h
  have hfs := hx fs
  rw [run_bind] at h
  generalize x.run fs = r at h hfs
  obtain ⟨e | a, fs₁⟩ := r
  · exact (Prod.mk.inj h).2 ▸ hfs
  · obtain rfl : fs₁ = fs := hfs
    exact hf a _ fault fs' h

theorem isAtomic_load_bind {load : Files → Except Fault α} {f : α → Job β}
    (hf : ∀ a, IsAtomic (f a)) :
    IsAtomic (get >>= fun fs => (liftM (load fs) : Job α) >>= f) :=
  onlyReads_get.bind_isAtomic fun fs => (onlyReads_lift (load fs)).bind_isAtomic hf

theorem IsAtomic.bind_neverFails {x : Job α} {f : α → Job β} (hx : IsAtomic x)
    (hf : ∀ a, NeverFails (f a)) : IsAtomic (x >>= f) := by
  intro fs fault fs' h
  rw [run_bind] at h
  rcases hrun : x.run fs with ⟨e | a, fs₁⟩
  · rw [hrun] at h
    obtain ⟨-, rfl⟩ := Prod.mk.inj h
    exact hx fs e _ hrun
  · rw [hrun] at h
    exact absurd h (hf a fs₁ fault fs')

end Job

open Job

namespace Surroundings
variable (w : Surroundings)

theorem isAtomic_saveConfiguration (c : Configuration) : (w.saveConfiguration c).IsAtomic := by
  refine (onlyReads_lift w.locations.configPath).bind_isAtomic fun _ => ?_
  refine onlyReads_get.bind_isAtomic fun fs => ?_
  exact (onlyReads_lift (c.save fs.configuration)).bind_isAtomic fun _ =>
    (neverFails_set _).isAtomic

theorem isAtomic_saveHistory (h : History) : (w.saveHistory h).IsAtomic := by
  refine (onlyReads_lift w.locations.historyPath).bind_isAtomic fun _ => ?_
  refine onlyReads_get.bind_isAtomic fun fs => ?_
  exact (onlyReads_lift (h.save fs.history)).bind_isAtomic fun _ => (neverFails_set _).isAtomic

theorem isAtomic_record (s : Status) (limit : Nat) : (w.record s limit).IsAtomic :=
  isAtomic_load_bind fun _ => w.isAtomic_saveHistory _

theorem neverFails_recordUse (s : Status) (limit : UInt64) : (w.recordUse s limit).NeverFails := by
  unfold recordUse
  split
  · exact neverFails_pure ()
  · exact neverFails_attempt _

end Surroundings

/-- A save is the last step of a command that can fail. -/
theorem Command.isAtomic_perform (w : Surroundings) (c : Command) : (c.perform w).IsAtomic := by
  cases c with
  | render template =>
    refine isAtomic_load_bind fun c => ?_
    exact (onlyReads_lift _).bind_isAtomic fun text => (neverFails_pure _).isAtomic
  | parse template =>
    exact (onlyReads_lift _).bind_isAtomic fun segments => (neverFails_pure _).isAtomic
  | listTemplates =>
    exact isAtomic_load_bind fun c => (onlyReads_lift _).isAtomic
  | addTemplate label message availability =>
    refine (onlyReads_lift _).bind_isAtomic fun segments => ?_
    refine isAtomic_load_bind fun c => ?_
    exact (w.isAtomic_saveConfiguration _).bind_neverFails fun _ => neverFails_pure _
  | removeTemplate index =>
    refine isAtomic_load_bind fun c => ?_
    refine (onlyReads_lift _).bind_isAtomic fun removed => ?_
    exact (w.isAtomic_saveConfiguration _).bind_neverFails fun _ => neverFails_pure _
  | use index =>
    refine isAtomic_load_bind fun c => ?_
    refine (onlyReads_lift _).bind_isAtomic fun t => ?_
    refine (onlyReads_lift _).bind_isAtomic fun message => ?_
    exact ((w.neverFails_recordUse _ _).bind fun _ => neverFails_pure _).isAtomic
  | history clear =>
    cases clear with
    | true =>
      refine isAtomic_load_bind fun h => ?_
      exact (w.isAtomic_saveHistory _).bind_neverFails fun _ => neverFails_pure _
    | false =>
      exact isAtomic_load_bind fun h => (onlyReads_lift _).isAtomic
  | bookmarks =>
    exact isAtomic_load_bind fun c => (onlyReads_lift _).isAtomic
  | bookmark =>
    refine isAtomic_load_bind fun h => ?_
    split
    · exact (onlyReads_throw _).isAtomic
    · refine isAtomic_load_bind fun c => ?_
      split
      · exact (neverFails_pure _).isAtomic
      · exact (w.isAtomic_saveConfiguration _).bind_neverFails fun _ => neverFails_pure _

end StatusLine
