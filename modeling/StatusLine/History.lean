import StatusLine.Calendar.Timestamp
import StatusLine.Fault
import StatusLine.File
import StatusLine.Json.Printer
import StatusLine.Json.Reader
import StatusLine.Status

/-!
# History

The statuses used, most recent first, each once and with the time of its last use. A missing file
and a text that does not spell a history hold the empty one; a file that cannot be read as text is a
fault.
-/
namespace StatusLine

structure HistoryEntry where
  status : Status
  recordedAt : Instant
  deriving DecidableEq, Repr

namespace HistoryEntry

def toJson (e : HistoryEntry) : Json :=
  .object (e.status.members ++ [("recordedAt", .string (Timestamp.write e.recordedAt))])

def depthLimit : Nat := 124

def statusField? (members : List (String × Json)) (name : String) : Option Json :=
  (Json.field? members name).join

/-- An entry is always an object, its unknown members are read as well, and the fields of the status
stand beside the time. -/
def ofJson? : Json → Option HistoryEntry
  | .object members => do
    let time ← statusField? members "recordedAt"
    let availability ← statusField? members "availability"
    let message ← statusField? members "message"
    if (members.filter (·.1 != "recordedAt")).all fun m => m.2.readableWithin depthLimit then
      return ⟨⟨← availability.looseName?.bind Availability.ofName?, ← message.string?⟩,
        ← time.string?.bind Timestamp.read?⟩
    else none
  | _ => none

def display (e : HistoryEntry) : String := e.status.display ++ "  " ++ Timestamp.short e.recordedAt

end HistoryEntry

structure History where
  entries : List HistoryEntry
  deriving DecidableEq, Repr

namespace History

def empty : History := ⟨[]⟩

def toJson (h : History) : Json := .object [("entries", .array (h.entries.map HistoryEntry.toJson))]

def ofJson? (v : Json) : Option History := do
  match ← v.fields? ["entries"] with
  | [entries] => return ⟨← Json.required (Json.list? HistoryEntry.ofJson?) entries⟩
  | _ => none

def write (h : History) : String := h.toJson.pretty

def read? (text : String) : Option History := (Json.read? text).bind ofJson?

def load (f : File) : Except Fault History :=
  match f.read with
  | .missing => .ok empty
  | .unreadable cause => .error (.inputOutput cause)
  | .text text => .ok ((read? text).getD empty)

def save (h : History) (f : File) : Except Fault File :=
  match f.write h.write with
  | .ok f => .ok f
  | .error cause => .error (.inputOutput cause)

/-- Puts a status in front, takes its older entry away, and keeps `limit` entries. -/
def record (h : History) (s : Status) (time : Instant) (limit : Nat) : History :=
  ⟨(⟨s, time⟩ :: h.entries.filter (·.status != s)).take limit⟩

def latest? (h : History) : Option HistoryEntry := h.entries.head?

def isEmpty (h : History) : Bool := h.entries.isEmpty

theorem length_record_le (h : History) (s : Status) (t : Instant) (limit : Nat) :
    (h.record s t limit).entries.length ≤ limit := List.length_take_le ..

theorem latest?_record (h : History) (s : Status) (t : Instant) {limit : Nat} (hl : 0 < limit) :
    (h.record s t limit).latest? = some ⟨s, t⟩ := by
  obtain ⟨n, rfl⟩ : ∃ n, limit = n + 1 := ⟨limit - 1, by omega⟩
  rfl

end History
end StatusLine
