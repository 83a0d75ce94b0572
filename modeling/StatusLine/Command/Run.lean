import StatusLine.Command.Basic
import StatusLine.Command.Job
import StatusLine.Configuration
import StatusLine.Console
import StatusLine.Git.Repository
import StatusLine.History
import StatusLine.Json.Printer
import StatusLine.Locations
import StatusLine.Placeholder.Record
import StatusLine.Render

/-!
# Running commands

A command is a job over the two files that ends with a text. The text of one that fails is its
fault, and the exit status is 1 then. Recording a used status is the one step whose failure is not
the command's.
-/
namespace StatusLine

structure Surroundings where
  locations : Locations
  /-- Where the program runs, or why the system does not tell. -/
  directory : Except String (List UInt8)
  repository : Option Git.Repository
  clock : Clock
  coloured : Bool

structure Outcome where
  stdout : String
  exit : Nat
  files : Files

namespace Surroundings

def loadConfiguration (w : Surroundings) (fs : Files) : Except Fault Configuration := do
  Configuration.load (← w.locations.configPath) fs.configuration

def loadHistory (w : Surroundings) (fs : Files) : Except Fault History := do
  let _ ← w.locations.historyPath
  History.load fs.history

def saveConfiguration (w : Surroundings) (c : Configuration) : Job Unit := do
  let _ ← w.locations.configPath
  let fs ← get
  set { fs with configuration := ← c.save fs.configuration }

def saveHistory (w : Surroundings) (h : History) : Job Unit := do
  let _ ← w.locations.historyPath
  let fs ← get
  set { fs with history := ← h.save fs.history }

def record (w : Surroundings) (s : Status) (limit : Nat) : Job Unit := do
  let h ← w.loadHistory (← get)
  w.saveHistory (h.record s w.clock.now limit)

/-- Records a used status if there is room for one, as far as that can be done. -/
def recordUse (w : Surroundings) (s : Status) (limit : UInt64) : Job Unit :=
  if limit = 0 then pure () else (w.record s limit.toNat).attempt

def render (w : Surroundings) (c : Configuration) (template : String) : Except Fault String := do
  let directory ← w.directory.mapError .inputOutput
  let versionControl := Git.Repository.discover directory c.gitIntegration w.repository
  Template.render ⟨.ok directory, versionControl, w.clock⟩ template

end Surroundings

namespace Command

def listing (coloured : Bool) (title : String) (nothing : Fault) (lines : List String) :
    Except Fault String :=
  if lines.isEmpty then .error nothing
  else .ok (Console.heading coloured title ++ Console.numbered coloured lines)

def perform (w : Surroundings) : Command → Job String
  | render template => do
    let c ← w.loadConfiguration (← get)
    return (← w.render c template) ++ "\n"
  | parse template => do
    return (Template.toJson (← Template.split template)).pretty ++ "\n"
  | listTemplates => do
    let c ← w.loadConfiguration (← get)
    listing w.coloured "Templates" .noTemplates (c.templates.map StatusTemplate.display)
  | addTemplate label message availability => do
    let _ ← Template.split message
    let c := (← w.loadConfiguration (← get)).add ⟨label, message, availability⟩
    w.saveConfiguration c
    return Console.success w.coloured ("Template " ++ toString c.templates.length ++ " added")
  | removeTemplate index => do
    let (t, c) ← (← w.loadConfiguration (← get)).remove index
    w.saveConfiguration c
    return Console.success w.coloured ("Template \"" ++ t.label ++ "\" removed")
  | use index => do
    let c ← w.loadConfiguration (← get)
    let t ← c.template index
    let s : Status := ⟨t.availability, ← w.render c t.message⟩
    w.recordUse s c.historyLimit
    return s.display ++ "\n"
  | history true => do
    let _ ← w.loadHistory (← get)
    w.saveHistory History.empty
    return Console.success w.coloured "History cleared"
  | history false => do
    let h ← w.loadHistory (← get)
    listing w.coloured "History" .noHistory (h.entries.map HistoryEntry.display)
  | bookmarks => do
    let c ← w.loadConfiguration (← get)
    listing w.coloured "Bookmarks" .noBookmarks (c.bookmarks.map Status.display)
  | bookmark => do
    let h ← w.loadHistory (← get)
    match h.latest? with
    | none => throw .nothingToBookmark
    | some e =>
      match (← w.loadConfiguration (← get)).bookmark? e.status with
      | none => return Console.note w.coloured ("Already bookmarked: " ++ e.status.display)
      | some c =>
        w.saveConfiguration c
        return Console.success w.coloured ("Bookmarked: " ++ e.status.display)

def run (w : Surroundings) (fs : Files) (c : Command) : Outcome :=
  match (c.perform w).run fs with
  | (.ok text, fs) => ⟨text, 0, fs⟩
  | (.error fault, fs) => ⟨Console.error w.coloured fault.report.message, 1, fs⟩

end Command
end StatusLine
