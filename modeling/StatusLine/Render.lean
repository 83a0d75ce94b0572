import StatusLine.Bounds
import StatusLine.DirectoryPath
import StatusLine.Environment
import StatusLine.Template
import StatusLine.Words.Casing
import StatusLine.Words.Split

/-!
# Rendering

The text of a template in an environment: its segments from left to right, each placeholder by what
the environment answers at that moment. The first segment that fails ends the rendering.
Numbers are checked here again, since a placeholder need not come from a template.
-/
namespace StatusLine

def headReference : String := "HEAD"

def shortHashLength : Nat := 6

namespace DirectoryName

def restyle (d : DirectoryName) (name : String) : String :=
  let words := Words.recase d.outputCasing (Words.split d.inputFormat name.toList)
  String.ofList (d.outputJoiner.toList.intercalate words)

def render (env : Environment) (d : DirectoryName) : Except Fault String := do
  if ¬ Bounds.IsSafeIndex d.levels then
    .error (.directoryOffsetUnsafe d.levels)
  let path ← env.directory
  match DirectoryPath.nameAbove? d.levels.toNat path with
  | some name => .ok (d.restyle (Utf8.decode name))
  | none => .error (.directoryUnresolved d.levels (DirectoryPath.display path))

end DirectoryName

def GitReference.render (env : Environment) : GitReference → Except Fault String
  | .branch => do
    match ← env.versionControl.branchName headReference with
    | some name => .ok name
    | none => .error (.branchMissing headReference)
  | .commit => do
    let hash ← env.versionControl.commitHash headReference
    return String.ofList (hash.toList.take shortHashLength)

def TimeOfDay.round (t : TimeOfDay) (r : Rounding) : Except Fault TimeOfDay :=
  match t.round? r with
  | some t => .ok t
  | none => .error (.roundingInvalid r)

namespace ClockTime

/-- The shift is made in universal time; local time is that of the instant reached. -/
def render (env : Environment) (t : ClockTime) : Except Fault String := do
  if ¬ Bounds.IsSafe t.shift ∨ ¬ Instant.IsShift t.shift then
    .error (.timeOffsetInvalid t.shift)
  let reached ← match env.clock.now.shift? t.shift with
    | some instant => .ok instant
    | none => .error (.timeOffsetInvalid t.shift)
  let time := reached.timeOfDay (env.clock.offsetAt reached)
  let time ← match t.round with
    | some r => time.round r
    | none => .ok time
  return String.ofList (time.format t.pattern.toList)

end ClockTime

def Placeholder.render (env : Environment) : Placeholder → Except Fault String
  | .directory d => d.render env
  | .git r => r.render env
  | .input _ => .error .inputUnsupported
  | .time t => t.render env

def Segment.render (env : Environment) : Segment → Except Fault String
  | .text s => .ok s
  | .placeholder p => p.render env

namespace Template

def renderSegments (env : Environment) (segments : List Segment) : Except Fault String :=
  String.join <$> segments.mapM (Segment.render env)

def render (env : Environment) (template : String) : Except Fault String := do
  renderSegments env (← split template)

end Template
end StatusLine
