import StatusLine.Bounds
import StatusLine.Fault
import StatusLine.File
import StatusLine.Json.Printer
import StatusLine.Json.Reader
import StatusLine.Status

/-!
# Configuration

The templates and bookmarks of the user, how many statuses the history keeps, and whether version
control is asked. A missing file holds the defaults; one that cannot be read or does not spell a
configuration is a fault, so that it is never overwritten by accident.
-/
namespace StatusLine

structure Configuration where
  templates : List StatusTemplate
  bookmarks : List Status
  historyLimit : UInt64
  gitIntegration : Bool
  deriving DecidableEq, Repr

namespace Configuration

def default : Configuration := ⟨[], [], 10, true⟩

def toJson (c : Configuration) : Json :=
  .object [("statusMessageTemplates", .array (c.templates.map StatusTemplate.toJson)),
    ("bookmarkedStatuses", .array (c.bookmarks.map Status.toJson)),
    ("statusHistoryLimit", .integer c.historyLimit.toNat),
    ("gitIntegration", .bool c.gitIntegration)]

def limit? : Json → Option UInt64
  | .integer n => if Bounds.IsWord64 n then some (UInt64.ofNat n.toNat) else none
  | _ => none

def ofJson? (v : Json) : Option Configuration := do
  match ← v.fields? ["statusMessageTemplates", "bookmarkedStatuses", "statusHistoryLimit",
      "gitIntegration"] with
  | [templates, bookmarks, limit, git] =>
    return ⟨← Json.withDefault (Json.list? StatusTemplate.ofJson?) default.templates templates,
      ← Json.withDefault (Json.list? Status.ofJson?) default.bookmarks bookmarks,
      ← Json.withDefault limit? default.historyLimit limit,
      ← Json.withDefault Json.bool? default.gitIntegration git⟩
  | _ => none

def write (c : Configuration) : String := c.toJson.pretty

def read? (text : String) : Option Configuration := (Json.read? text).bind ofJson?

/-- The configuration in a file; `path` is only named in the fault. -/
def load (path : String) (f : File) : Except Fault Configuration :=
  match f.read with
  | .missing => .ok default
  | .unreadable cause => .error (.configurationUnreadable path cause)
  | .text text =>
    match read? text with
    | some c => .ok c
    | none => .error (.configurationUnreadable path "not a configuration")

def save (c : Configuration) (f : File) : Except Fault File :=
  match f.write c.write with
  | .ok f => .ok f
  | .error cause => .error (.inputOutput cause)

def template (c : Configuration) (index : Nat) : Except Fault StatusTemplate :=
  match index with
  | 0 => .error (.templateMissing 0 c.templates.length)
  | i + 1 =>
    match c.templates[i]? with
    | some t => .ok t
    | none => .error (.templateMissing index c.templates.length)

def remove (c : Configuration) (index : Nat) : Except Fault (StatusTemplate × Configuration) := do
  let t ← c.template index
  return (t, { c with templates := c.templates.eraseIdx (index - 1) })

def add (c : Configuration) (t : StatusTemplate) : Configuration :=
  { c with templates := c.templates ++ [t] }

def bookmark? (c : Configuration) (s : Status) : Option Configuration :=
  if s ∈ c.bookmarks then none else some { c with bookmarks := c.bookmarks ++ [s] }

theorem limit?_toNat (n : UInt64) : limit? (.integer n.toNat) = some n := by
  have hn := n.toNat_lt
  have hword : Bounds.IsWord64 n.toNat := by
    unfold Bounds.IsWord64 Bounds.word64Max
    omega
  simp [limit?, hword]

end Configuration
end StatusLine
