import Std.Time.DateTime.Timestamp
import StatusLine.Command.Arguments
import StatusLine.Command.Run

/-!
# The program

Gathers what a run needs from the machine, runs the command, and puts back the files that it
changed. Clocks show universal time. Of a repository it reads the references that `HEAD` may lead
through, and takes the objects at their end for commits.
-/
namespace StatusLine.Program

def readText? (path : String) : IO (Option String) := do
  try
    return String.fromUTF8? (← IO.FS.readBinFile path)
  catch _ =>
    return none

def readFile (path : String) : IO File := do
  try
    return .ofBytes (← IO.FS.readBinFile path)
  catch e =>
    match e with
    | .noFileOrDirectory .. => return .absent
    | .inappropriateType _ code _ => return if code = 21 then .directory else .absent
    | e => return ⟨.unreadable (toString e), none⟩

def holder (path : String) : String :=
  String.ofList (path.toList.reverse.dropWhile (· != '/')).tail.reverse

def writeFile (path : String) (f : File) : IO (Option String) := do
  match f.entry with
  | .file bytes =>
    try
      IO.FS.createDirAll (holder path)
      IO.FS.writeBinFile path bytes
      return none
    catch e =>
      return some (toString e)
  | _ => return none

structure Reading where
  files : FileTree
  ids : List String

/-- Reads a reference and those that it leads through, as far as they are files. -/
def readChain (gitDirectory : String) : Nat → Reading → String → IO Reading
  | 0, seen, _ => return seen
  | n + 1, seen, name => do
    let path := gitDirectory ++ "/" ++ name
    match ← readText? path with
    | none => return seen
    | some text =>
      let files := seen.files.record (FileTree.names path) (.file text)
      match Git.Target.ofText? text with
      | some (.symbolic next) => readChain gitDirectory n ⟨files, seen.ids⟩ next
      | some (.direct id) => return ⟨files, id :: seen.ids⟩
      | none => return ⟨files, seen.ids⟩

def readPacked (gitDirectory : String) (seen : Reading) : IO Reading := do
  let path := gitDirectory ++ "/packed-refs"
  match ← readText? path with
  | none => return seen
  | some text =>
    return ⟨seen.files.record (FileTree.names path) (.file text),
      ((Git.PackedRefs.read? text).getD []).map (·.2) ++ seen.ids⟩

def readRepository? (gitDirectory : String) : IO (Option Git.Repository) := do
  match ← readText? (gitDirectory ++ "/HEAD") with
  | none => return none
  | some _ =>
    let seen ← (Git.RefName.candidates headReference).foldlM
      (readChain gitDirectory (Git.Repository.maxSteps + 1)) ⟨FileTree.empty, []⟩
    let seen ← readPacked gitDirectory seen
    return some
      { files := seen.files
        place := FileTree.plain (FileTree.names gitDirectory)
        objects := seen.ids.map fun id => (id, .commit) }

def findRepository? : Nat → String → IO (Option Git.Repository)
  | 0, _ => return none
  | n + 1, directory => do
    match ← readRepository? (directory ++ "/.git") with
    | some r => return some r
    | none => if directory.isEmpty then return none else findRepository? n (holder directory)

def now : IO Instant := do
  let t ← Std.Time.Timestamp.now
  let nanos := t.toNanosecondsSinceUnixEpoch.val
  match Instant.ofParts? (nanos / 1000000000) (nanos % 1000000000).toNat with
  | some t => return t
  | none => throw (IO.userError "the clock is outside the calendar")

def coloured : IO Bool := do
  let isOn := fun (v : Option String) => v.map (· != "0")
  if isOn (← IO.getEnv "CLICOLOR_FORCE") == some true then return true
  if (← IO.getEnv "NO_COLOR").isSome then return false
  return (isOn (← IO.getEnv "CLICOLOR")).getD true && (← (← IO.getStdout).isTty)

def surroundings : IO Surroundings := do
  let directory := toString (← IO.currentDir)
  let locations : Locations :=
    ⟨← IO.getEnv "HOME", ← IO.getEnv "XDG_CONFIG_HOME", ← IO.getEnv "XDG_CACHE_HOME"⟩
  let repository ← findRepository? directory.length.succ directory
  return ⟨locations, .ok directory.toUTF8.toList, repository, .fixed (← now) 0, ← coloured⟩

def readPlace : Except Fault String → IO File
  | .ok path => readFile path
  | .error _ => return .absent

def isSame : Entry → Entry → Bool
  | .missing, .missing => true
  | .file a, .file b => a == b
  | .unreadable _, .unreadable _ => true
  | _, _ => false

def putBack (place : Except Fault String) (old new : File) : IO (Option String) :=
  match place with
  | .ok path => if isSame old.entry new.entry then return none else writeFile path new
  | .error _ => return none

/-- Runs a command. A file that turns out not to be writable makes the run start over with that
known. -/
def perform (c : Command) : IO UInt32 := do
  let w ← surroundings
  let fs : Files := ⟨← readPlace w.locations.configPath, ← readPlace w.locations.historyPath⟩
  let outcome := c.run w fs
  let refusal ← putBack w.locations.configPath fs.configuration outcome.files.configuration
  let historyRefusal ← putBack w.locations.historyPath fs.history outcome.files.history
  let outcome :=
    if refusal.isSome || historyRefusal.isSome then
      c.run w ⟨⟨fs.configuration.entry, refusal⟩, ⟨fs.history.entry, historyRefusal⟩⟩
    else outcome
  IO.print outcome.stdout
  return UInt32.ofNat outcome.exit

def usage : String :=
  "Usage: chat-status [--debug] <render|parse|templates|use|history|bookmarks|bookmark> [...]"

end StatusLine.Program

open StatusLine in
def main (args : List String) : IO UInt32 := do
  match Arguments.read args with
  | .ok (_, c) => Program.perform c
  | .error .help =>
    IO.println Program.usage
    return 0
  | .error .version =>
    IO.println "chat-status 0.1.0"
    return 0
  | .error .misuse =>
    IO.eprintln Program.usage
    return 2
