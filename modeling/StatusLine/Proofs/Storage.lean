import StatusLine.Configuration
import StatusLine.History
import StatusLine.Proofs.JsonRecords
import StatusLine.Proofs.Steps
import StatusLine.Proofs.TimestampReading

/-!
# What is saved is loaded

A record has a JSON value with a text of its own, and its reader takes the value back to the record.
The file holds that text once a save succeeds, so a load finds the record again, and to save what
was loaded puts the same bytes in place.
-/
namespace StatusLine

namespace Status

theorem hasText (s : Status) : s.toJson.HasText := by
  simp [toJson, members, Availability.toJson, Json.HasText, Json.MembersHaveText]

end Status

namespace StatusTemplate

theorem hasText (t : StatusTemplate) : t.toJson.HasText := by
  simp [toJson, Availability.toJson, Json.HasText, Json.MembersHaveText]

end StatusTemplate

namespace Configuration

theorem hasText (c : Configuration) : c.toJson.HasText := by
  have hlimit : c.historyLimit.toNat ≤ Bounds.word64Max := Nat.le_of_lt_succ c.historyLimit.toNat_lt
  refine ⟨?_, ?_, ?_, trivial, trivial⟩
  · exact Json.allHaveText_map _ fun t _ => t.hasText
  · exact Json.allHaveText_map _ fun s _ => s.hasText
  · simpa [Json.HasText] using hlimit

theorem ofJson?_toJson (c : Configuration) : ofJson? c.toJson = some c := by
  have htemplates := Json.list?_map StatusTemplate.ofJson?_toJson c.templates
  have hbookmarks := Json.list?_map Status.ofJson?_toJson c.bookmarks
  simp [ofJson?, toJson, Json.fields?, Json.field?, Json.withDefault, Json.bool?, htemplates,
    hbookmarks, limit?_toNat]

theorem read?_write (c : Configuration) : read? c.write = some c := by
  rw [read?, write, Json.read?_pretty c.hasText, Option.bind_some, ofJson?_toJson]

theorem save_eq_ok {c : Configuration} {f g : File} :
    c.save f = .ok g ↔ f.refusal = none ∧ g = .ofBytes c.write.toUTF8 := by
  rw [← File.write_eq_ok, save]
  cases f.write c.write <;> simp

theorem load_missing (path : String) {f : File} (h : f.entry = .missing) :
    load path f = .ok default := by
  simp only [load, File.read, h]

theorem load_ofBytes_write (path : String) (c : Configuration) :
    load path (.ofBytes c.write.toUTF8) = .ok c := by
  simp only [load, File.read_ofBytes_toUTF8, read?_write]

end Configuration

namespace HistoryEntry

theorem hasText (e : HistoryEntry) : e.toJson.HasText := by
  simp [toJson, Status.members, Availability.toJson, Json.HasText, Json.MembersHaveText]

theorem ofJson?_toJson (e : HistoryEntry) : ofJson? e.toJson = some e := by
  obtain ⟨⟨availability, message⟩, recordedAt⟩ := e
  simp [ofJson?, toJson, Status.members, statusField?, Json.field?, Availability.toJson,
    Json.readableWithin, Json.looseName?, Json.name?, Json.string?, Availability.ofName?_name,
    Timestamp.read?_write]

end HistoryEntry

namespace History

theorem hasText (h : History) : h.toJson.HasText := by
  refine ⟨?_, trivial⟩
  exact Json.allHaveText_map _ fun e _ => e.hasText

theorem ofJson?_toJson (h : History) : ofJson? h.toJson = some h := by
  have hentries := Json.list?_map HistoryEntry.ofJson?_toJson h.entries
  simp [ofJson?, toJson, Json.fields?, Json.field?, Json.required, hentries]

theorem read?_write (h : History) : read? h.write = some h := by
  rw [read?, write, Json.read?_pretty h.hasText, Option.bind_some, ofJson?_toJson]

theorem save_eq_ok {h : History} {f g : File} :
    h.save f = .ok g ↔ f.refusal = none ∧ g = .ofBytes h.write.toUTF8 := by
  rw [← File.write_eq_ok, save]
  cases f.write h.write <;> simp

theorem load_missing {f : File} (h : f.entry = .missing) : load f = .ok empty := by
  simp only [load, File.read, h]

theorem load_ofBytes_write (h : History) : load (.ofBytes h.write.toUTF8) = .ok h := by
  simp only [load, File.read_ofBytes_toUTF8, read?_write, Option.getD_some]

theorem load_of_save {h : History} {f g : File} (hs : h.save f = .ok g) : load g = .ok h := by
  obtain ⟨-, rfl⟩ := save_eq_ok.1 hs
  exact load_ofBytes_write h

end History

/-- A save succeeds unless the file refuses it. What it puts there is loaded unchanged, and saving
what was loaded leaves the file as it is. -/
theorem load_save_load (path : String) (f : File) :
    (∀ c : Configuration, ((∃ g, c.save f = .ok g) ↔ f.refusal = none) ∧
      ∀ g, c.save f = .ok g → g.read = .text c.write ∧ Configuration.load path g = .ok c ∧
        (Configuration.load path g >>= fun loaded => loaded.save g) = .ok g) ∧
    (∀ h : History, ((∃ g, h.save f = .ok g) ↔ f.refusal = none) ∧
      ∀ g, h.save f = .ok g → g.read = .text h.write ∧ History.load g = .ok h ∧
        (History.load g >>= fun loaded => loaded.save g) = .ok g) := by
  refine ⟨fun c => ⟨by simp [Configuration.save_eq_ok], ?_⟩,
    fun h => ⟨by simp [History.save_eq_ok], ?_⟩⟩
  · intro g hg
    obtain ⟨-, rfl⟩ := Configuration.save_eq_ok.1 hg
    have hload := Configuration.load_ofBytes_write path c
    refine ⟨File.read_ofBytes_toUTF8 _, hload, ?_⟩
    rw [hload, ok_bind]
    exact Configuration.save_eq_ok.2 ⟨rfl, rfl⟩
  · intro g hg
    obtain ⟨-, rfl⟩ := History.save_eq_ok.1 hg
    have hload := History.load_ofBytes_write h
    refine ⟨File.read_ofBytes_toUTF8 _, hload, ?_⟩
    rw [hload, ok_bind]
    exact History.save_eq_ok.2 ⟨rfl, rfl⟩

end StatusLine
