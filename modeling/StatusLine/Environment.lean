import StatusLine.Calendar.Instant
import StatusLine.Fault

/-!
# Environment

What templates are rendered against: the working directory, version control and a clock. Each is
asked through one interface, and asking may fail.
-/
namespace StatusLine

structure VersionControl where
  /-- The branch that the reference is on, if it is on one. -/
  branchName : String → Except Fault (Option String)
  commitHash : String → Except Fault String

namespace VersionControl

def unavailable (reason : String) : VersionControl where
  branchName _ := .error (.gitUnavailable reason)
  commitHash _ := .error (.gitUnavailable reason)

def fixed (branch commit : Option String) : VersionControl where
  branchName _ := .ok branch
  commitHash reference :=
    match commit with
    | some hash => .ok hash
    | none => .error (.commitUnresolved reference .unexplained)

end VersionControl

/-- The present instant, and by how many seconds local time is ahead at each instant. -/
structure Clock where
  now : Instant
  offsetAt : Instant → Int

namespace Clock

def fixed (now : Instant) (offset : Int) : Clock := ⟨now, fun _ => offset⟩

def zoneOffset (base : Int) (changes : List (Instant × Int)) (t : Instant) : Int :=
  ((changes.takeWhile fun c => c.1.le t).getLast?.map (·.2)).getD base

def zoned (now : Instant) (base : Int) (changes : List (Instant × Int)) : Clock :=
  ⟨now, zoneOffset base changes⟩

end Clock

structure Environment where
  directory : Except Fault (List UInt8)
  versionControl : VersionControl
  clock : Clock

end StatusLine
