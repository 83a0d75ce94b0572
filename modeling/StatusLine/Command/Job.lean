import StatusLine.Fault
import StatusLine.File

/-!
# Jobs

Work on the two files that the program keeps. A step looks at them, replaces them, or fails. A fault
ends the job and puts nothing back: the files stay as the steps before it have left them.
-/
namespace StatusLine

structure Files where
  configuration : File
  history : File

abbrev Job := ExceptT Fault (StateM Files)

namespace Job
variable {α β : Type}

def run (x : Job α) (fs : Files) : Except Fault α × Files := StateT.run (ExceptT.run x) fs

/-- Goes on after a fault, with what has been done before it. -/
def attempt (x : Job Unit) : Job Unit := tryCatch x fun _ => pure ()

@[simp] theorem run_pure (a : α) (fs : Files) : (pure a : Job α).run fs = (.ok a, fs) := rfl

@[simp] theorem run_throw (fault : Fault) (fs : Files) :
    (throw fault : Job α).run fs = (.error fault, fs) := rfl

@[simp] theorem run_set (fs fs' : Files) : (set fs' : Job Unit).run fs = (.ok (), fs') := rfl

@[simp] theorem run_lift (x : Except Fault α) (fs : Files) : (liftM x : Job α).run fs = (x, fs) :=
  rfl

theorem run_bind (x : Job α) (f : α → Job β) (fs : Files) :
    (x >>= f).run fs = match x.run fs with
      | (.ok a, fs) => (f a).run fs
      | (.error fault, fs) => (.error fault, fs) := by
  simp only [run, ExceptT.run_bind, StateT.run_bind]
  rcases StateT.run (ExceptT.run x) fs with ⟨fault | a, fs⟩
  · rfl
  · rfl

@[simp] theorem run_get_bind (f : Files → Job β) (fs : Files) :
    (get >>= f).run fs = (f fs).run fs := rfl

@[simp] theorem run_ok_bind (a : α) (f : α → Job β) (fs : Files) :
    ((liftM (.ok a : Except Fault α) : Job α) >>= f).run fs = (f a).run fs := rfl

@[simp] theorem run_error_bind (fault : Fault) (f : α → Job β) (fs : Files) :
    ((liftM (.error fault : Except Fault α) : Job α) >>= f).run fs = (.error fault, fs) := rfl

theorem run_bind_pure_eq_ok {x : Job Unit} {b b' : β} {fs fs' : Files} :
    (x >>= fun _ => pure b).run fs = (.ok b', fs') ↔ x.run fs = (.ok (), fs') ∧ b = b' := by
  rw [run_bind]
  rcases x.run fs with ⟨fault | u, fs₁⟩
  · simp
  · simp [and_comm]

theorem run_lift_bind_eq_ok {x : Except Fault α} {f : α → Job β} {fs fs' : Files} {b : β} :
    ((liftM x : Job α) >>= f).run fs = (.ok b, fs') ↔
      ∃ a, x = .ok a ∧ (f a).run fs = (.ok b, fs') := by
  cases x with
  | error fault => simp
  | ok a => simp

theorem run_lift_bind_eq_error {x : Except Fault α} {f : α → Job β} {fs fs' : Files}
    {fault : Fault} : ((liftM x : Job α) >>= f).run fs = (.error fault, fs') ↔
      (x = .error fault ∧ fs = fs') ∨ ∃ a, x = .ok a ∧ (f a).run fs = (.error fault, fs') := by
  cases x with
  | error found => simp
  | ok a => simp

theorem run_attempt (x : Job Unit) (fs : Files) :
    (attempt x).run fs = (.ok (), (x.run fs).2) := by
  simp only [attempt, tryCatch, tryCatchThe, MonadExceptOf.tryCatch, ExceptT.tryCatch, run,
    ExceptT.run_mk, StateT.run_bind]
  unfold ExceptT.run
  rcases StateT.run x fs with ⟨fault | a, fs⟩
  · rfl
  · rfl

end Job
end StatusLine
