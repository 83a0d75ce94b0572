import StatusLine.Proofs.LowerCase
import StatusLine.Proofs.WordCuts
import StatusLine.Render

/-!
# The first letter of a directory name

The casing that capitalizes the first word is meant to raise the very first character of the joined
name, and so it does when the name begins with a letter. Where the name begins with a separator the
first word is empty and has no letter to raise, so that the joined name stays in lower case.
-/
namespace StatusLine

namespace Unicode

theorem capitalize_intercalate {joiner w : List Char} (hw : w ≠ []) (ws : List (List Char)) :
    joiner.intercalate (capitalize w :: ws) = capitalize (joiner.intercalate (w :: ws)) := by
  cases w with
  | nil => exact absurd rfl hw
  | cons c w => cases ws <;> simp [capitalize]

end Unicode

namespace DirectoryName
open Unicode Words

def withCasing (d : DirectoryName) (casing : WordCasing) : DirectoryName :=
  { d with casing := some casing }

def raiseFirst (text : String) : String := String.ofList (capitalize text.toList)

def LeadsWithSeparator (format : WordFormat) (name : String) : Prop :=
  name.toList.head?.any (isSeparator format) = true

instance (format : WordFormat) (name : String) : Decidable (LeadsWithSeparator format name) := by
  unfold LeadsWithSeparator; infer_instance

/-- The first word of a name is empty where the name begins with a separator. Else it is empty only
when there is nothing at all. -/
theorem exists_split_eq_cons (format : WordFormat) (name : String) :
    ∃ w ws, Words.split format name.toList = w :: ws ∧ (LeadsWithSeparator format name → w = []) ∧
      (¬ LeadsWithSeparator format name → w = [] → ws = []) := by
  have hcut := cut_split format name.toList
  unfold LeadsWithSeparator
  generalize Words.split format name.toList = words at hcut ⊢
  generalize name.toList = cs at hcut ⊢
  cases hcut with
  | done => exact ⟨[], [], rfl, fun _ => rfl, fun _ _ => rfl⟩
  | separator hc hrest => exact ⟨[], _, rfl, fun _ => rfl, fun h => absurd hc (by simpa using h)⟩
  | letter hs hc hrest => exact ⟨_, _, rfl, fun h => by simp [hs] at h, fun _ h => by simp at h⟩

theorem restyle_upFirst_eq (d : DirectoryName) (name : String) :
    (d.withCasing .upFirst).restyle name = String.ofList (d.outputJoiner.toList.intercalate
      (mapFirst capitalize id ((Words.split d.inputFormat name.toList).map toLower))) :=
  rfl

theorem restyle_low_eq (d : DirectoryName) (name : String) :
    (d.withCasing .low).restyle name = String.ofList (d.outputJoiner.toList.intercalate
      ((Words.split d.inputFormat name.toList).map toLower)) := by
  rw [← recase_low]
  rfl

theorem restyle_of_leads (d : DirectoryName) {name : String}
    (h : LeadsWithSeparator d.inputFormat name) :
    (d.withCasing .upFirst).restyle name = (d.withCasing .low).restyle name := by
  obtain ⟨w, ws, hsplit, hempty, -⟩ := exists_split_eq_cons d.inputFormat name
  rw [restyle_upFirst_eq, restyle_low_eq, hsplit, hempty h]
  simp [mapFirst]

theorem restyle_of_not_leads (d : DirectoryName) {name : String}
    (h : ¬ LeadsWithSeparator d.inputFormat name) :
    (d.withCasing .upFirst).restyle name = raiseFirst ((d.withCasing .low).restyle name) := by
  obtain ⟨w, ws, hsplit, -, hempty⟩ := exists_split_eq_cons d.inputFormat name
  rw [restyle_upFirst_eq, restyle_low_eq, hsplit, raiseFirst, String.toList_ofList]
  by_cases hw : w = []
  · rw [hempty h hw, hw]
    rfl
  · rw [List.map_cons, ← capitalize_intercalate (toLower_ne_nil hw)]
    simp [mapFirst]

/-- The very first character is raised exactly where the name does not begin with a separator, or
where upper case would not change it. A name that begins with a separator is in lower case. -/
theorem restyle_upFirst (d : DirectoryName) (name : String) :
    ((d.withCasing .upFirst).restyle name = raiseFirst ((d.withCasing .low).restyle name) ↔
      ¬ LeadsWithSeparator d.inputFormat name ∨
        raiseFirst ((d.withCasing .low).restyle name) = (d.withCasing .low).restyle name) ∧
    (LeadsWithSeparator d.inputFormat name →
      (d.withCasing .upFirst).restyle name = (d.withCasing .low).restyle name) := by
  refine ⟨?_, restyle_of_leads d⟩
  by_cases h : LeadsWithSeparator d.inputFormat name
  · simp [h, restyle_of_leads d h, eq_comm]
  · simp [h, restyle_of_not_leads d h]

/-- Nothing is raised in a name that begins with a separator and is joined by nothing. -/
theorem restyle_upFirst_leading_separator :
    ((⟨none, some .snake, none, some ""⟩ : DirectoryName).withCasing .upFirst).restyle "_private" =
      "private" ∧
    raiseFirst (((⟨none, some .snake, none, some ""⟩ : DirectoryName).withCasing .low).restyle
      "_private") = "Private" := by
  decide +kernel

example : ((⟨none, some .snake, none, some "-"⟩ : DirectoryName).withCasing .upFirst).restyle
    "ÜBER_STRAẞE" = "Über-straße" := by
  decide +kernel

end DirectoryName
end StatusLine
