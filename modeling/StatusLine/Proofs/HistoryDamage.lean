import StatusLine.Proofs.CommandEffects

/-!
# A damaged history

Where the file of the history is missing or holds a text, whatever the text says, there is a history
to go on with, and the next change of it writes it as a whole. Bytes that are no text are a fault
instead. Nothing gets rid of them then: clearing the history fails as listing it does, and a used
status is printed but not recorded.
-/
namespace StatusLine

def Entry.IsText : Entry → Prop
  | .missing => True
  | .file bytes => ∃ text : String, bytes = text.toUTF8
  | .unreadable _ => False

namespace History

theorem load_text {f : File} {text : String} (h : f.entry = .file text.toUTF8) :
    load f = .ok ((read? text).getD empty) := by
  simp only [load, File.read_eq_text.2 h]

theorem isText_of_load {f : File} {h : History} (hload : load f = .ok h) : f.entry.IsText := by
  cases hread : f.read with
  | missing =>
    cases he : f.entry with
    | missing => trivial
    | file bytes =>
      simp only [File.read, he] at hread
      split at hread <;> simp at hread
    | unreadable cause => simp [File.read, he] at hread
  | text text =>
    rw [File.read_eq_text.1 hread]
    exact ⟨text, rfl⟩
  | unreadable cause => simp [load, hread] at hload

theorem exists_load {f : File} : (∃ h, load f = .ok h) ↔ f.entry.IsText := by
  constructor
  · intro h
    obtain ⟨h, hload⟩ := h
    exact isText_of_load hload
  · intro h
    cases he : f.entry with
    | missing => exact ⟨empty, load_missing he⟩
    | file bytes =>
      rw [he] at h
      obtain ⟨text, rfl⟩ := h
      exact ⟨_, load_text he⟩
    | unreadable cause =>
      rw [he] at h
      exact h.elim

theorem load_stray_byte :
    load (.ofBytes ⟨#[0xff]⟩) = .error (.inputOutput "stream did not contain valid UTF-8") ∧
      ¬ ∀ bytes : ByteArray, ∃ h, load (.ofBytes bytes) = .ok h := by
  have hfault : load (.ofBytes ⟨#[0xff]⟩) =
      .error (.inputOutput "stream did not contain valid UTF-8") := rfl
  refine ⟨hfault, fun hall => ?_⟩
  obtain ⟨h, hload⟩ := hall ⟨#[0xff]⟩
  rw [hfault] at hload
  simp at hload

section
variable {w : Surroundings} {fs : Files}

theorem exists_loadHistory (hplace : ∃ path, w.locations.historyPath = .ok path) :
    (∃ h, w.loadHistory fs = .ok h) ↔ fs.history.entry.IsText := by
  obtain ⟨path, hpath⟩ := hplace
  simp only [Surroundings.loadHistory, hpath, ok_bind, exists_load]

theorem run_clear (hload : ∃ h, w.loadHistory fs = .ok h) (hwritable : fs.history.refusal = none) :
    ((Command.history true).run w fs).exit = 0 ∧
      w.loadHistory ((Command.history true).run w fs).files = .ok empty := by
  obtain ⟨text, hperform⟩ := Command.yields_clearHistory.2 ⟨hload, hwritable, rfl⟩
  obtain ⟨h, hload⟩ := hload
  rw [Command.run_of_perform hperform]
  exact ⟨rfl, Surroundings.loadHistory_withHistory hload empty⟩

theorem run_use {index : Nat} {c : Configuration} (hload : ∃ h, w.loadHistory fs = .ok h)
    (hwritable : fs.history.refusal = none) (hc : w.loadConfiguration fs = .ok c)
    (hlimit : 0 < c.historyLimit.toNat) (hexit : ((Command.use index).run w fs).exit = 0) :
    ∃ h e, w.loadHistory ((Command.use index).run w fs).files = .ok h ∧
      h.entries.head? = some e ∧
      ((Command.use index).run w fs).stdout = e.status.display ++ "\n" := by
  obtain ⟨h, hload⟩ := hload
  obtain ⟨text, fs', hperform, hrun⟩ := (Command.run_cases w fs (.use index)).resolve_right
    fun hfails => absurd (hexit.symm.trans hfails.2.1) Nat.zero_ne_one
  obtain ⟨c₀, t, message, hc₀, -, -, rfl, rfl⟩ := Command.perform_use_eq_ok.1 hperform
  obtain rfl : c = c₀ := Except.ok.inj (hc.symm.trans hc₀)
  have hsome : c.historyLimit ≠ 0 := by
    intro hzero
    rw [hzero] at hlimit
    exact absurd hlimit (Nat.lt_irrefl 0)
  rw [hrun, Surroundings.afterUse_of_load hsome hload hwritable]
  exact ⟨_, _, Surroundings.loadHistory_withHistory hload _, latest?_record h _ _ hlimit, rfl⟩

theorem run_keeps_damage (hload : ¬ ∃ h, w.loadHistory fs = .ok h) (c : Command) :
    (c.run w fs).files.history = fs.history := by
  rcases Command.run_cases w fs c with ⟨text, fs', hperform, hrun⟩ | ⟨-, -, hfiles⟩
  · rw [hrun]
    by_cases hc : c.MayChangeHistory
    · cases c with
      | use index =>
        obtain ⟨c, t, message, -, -, -, -, rfl⟩ := Command.perform_use_eq_ok.1 hperform
        rcases Surroundings.afterUse_cases w fs ⟨t.availability, message⟩ c.historyLimit with
          ⟨hleft, -⟩ | ⟨h, -, -, hok, -⟩
        · rw [hleft]
        · exact absurd ⟨h, hok⟩ hload
      | history clear =>
        cases clear with
        | true => exact absurd (Command.yields_clearHistory.1 ⟨text, hperform⟩).1 hload
        | false => exact hc.elim
      | _ => exact hc.elim
    · exact Command.history_of_yields ⟨text, hperform⟩ hc
  · rw [hfiles]

/-- A history that is missing or a text is loaded, cleared and added to, as far as it says something
as what it says, and else as the empty one. With any other bytes the history can neither be cleared
nor added to, and no command changes them. -/
theorem heals_iff_isText (hplace : ∃ path, w.locations.historyPath = .ok path)
    (hwritable : fs.history.refusal = none) :
    ((∃ h, w.loadHistory fs = .ok h) ↔ fs.history.entry.IsText) ∧
    (fs.history.entry = .missing → w.loadHistory fs = .ok empty) ∧
    (∀ text : String, fs.history.entry = .file text.toUTF8 →
      w.loadHistory fs = .ok ((read? text).getD empty)) ∧
    (fs.history.entry.IsText →
      (((Command.history true).run w fs).exit = 0 ∧
        w.loadHistory ((Command.history true).run w fs).files = .ok empty) ∧
      ∀ index c, w.loadConfiguration fs = .ok c → 0 < c.historyLimit.toNat →
        ((Command.use index).run w fs).exit = 0 →
          ∃ h e, w.loadHistory ((Command.use index).run w fs).files = .ok h ∧
            h.entries.head? = some e ∧
            ((Command.use index).run w fs).stdout = e.status.display ++ "\n") ∧
    (¬ fs.history.entry.IsText →
      ((Command.history true).run w fs).exit = 1 ∧
        ∀ c : Command, (c.run w fs).files.history = fs.history) := by
  have hexists : (∃ h, w.loadHistory fs = .ok h) ↔ fs.history.entry.IsText :=
    exists_loadHistory hplace
  obtain ⟨path, hpath⟩ := hplace
  have hplaced : w.loadHistory fs = load fs.history := by
    simp only [Surroundings.loadHistory, hpath, ok_bind]
  refine ⟨hexists, fun h => by rw [hplaced, load_missing h],
    fun text h => by rw [hplaced, load_text h], ?_, ?_⟩
  · intro htext
    have hload := hexists.2 htext
    exact ⟨run_clear hload hwritable,
      fun index c hc hlimit hexit => run_use hload hwritable hc hlimit hexit⟩
  · intro hno
    have hload : ¬ ∃ h, w.loadHistory fs = .ok h := fun h => hno (hexists.1 h)
    refine ⟨?_, run_keeps_damage hload⟩
    rcases Command.run_cases w fs (.history true) with ⟨text, fs', hperform, -⟩ | ⟨-, hexit, -⟩
    · exact absurd (Command.yields_clearHistory.1 ⟨text, hperform⟩).1 hload
    · exact hexit

end

theorem heals_malformed_text :
    let w : Surroundings :=
      ⟨⟨some "/home/u", none, none⟩, .ok [], none, .fixed ⟨0, 0, by decide⟩ 0, false⟩
    let fs : Files := ⟨.absent, .ofBytes "[[[".toUTF8⟩
    ((∃ path, w.locations.historyPath = .ok path) ∧ fs.history.refusal = none ∧
      fs.history.entry.IsText) ∧
    w.loadHistory fs = .ok empty ∧
    ((Command.history true).run w fs).exit = 0 ∧
    w.loadHistory ((Command.history true).run w fs).files = .ok empty := by
  intro w fs
  have htext : fs.history.entry.IsText := ⟨"[[[", rfl⟩
  have hplace : ∃ path, w.locations.historyPath = .ok path := ⟨_, rfl⟩
  have hempty : read? "[[[" = none := by decide
  have hwritable : fs.history.refusal = none := rfl
  obtain ⟨-, -, hload, hheals, -⟩ := heals_iff_isText hplace hwritable
  refine ⟨⟨hplace, hwritable, htext⟩, ?_, (hheals htext).1⟩
  rw [hload "[[[" rfl, hempty]
  rfl

end History
end StatusLine
