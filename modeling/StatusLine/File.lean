/-!
# Files

What stands at the path of a file that this program keeps, and why a text cannot be put there, if
it cannot. A write puts the whole text there or leaves everything as it was.
-/
namespace StatusLine

inductive Entry
  | missing
  | file (bytes : ByteArray)
  | unreadable (cause : String)

structure File where
  entry : Entry
  /-- Why a write fails, if it does. -/
  refusal : Option String

namespace File

def absent : File := ⟨.missing, none⟩

def ofBytes (bytes : ByteArray) : File := ⟨.file bytes, none⟩

def isDirectory : String := "Is a directory (os error 21)"

def directory : File := ⟨.unreadable isDirectory, some isDirectory⟩

/-- A file stands in the place of the directory that should hold the file. -/
def blocked : File := ⟨.missing, some "File exists (os error 17)"⟩

def write (f : File) (text : String) : Except String File :=
  match f.refusal with
  | none => .ok { f with entry := .file text.toUTF8 }
  | some cause => .error cause

inductive Content
  | missing
  | text (s : String)
  | unreadable (cause : String)

def read (f : File) : Content :=
  match f.entry with
  | .missing => .missing
  | .unreadable cause => .unreadable cause
  | .file bytes =>
    match String.fromUTF8? bytes with
    | some s => .text s
    | none => .unreadable "stream did not contain valid UTF-8"

theorem fromUTF8?_toUTF8 (text : String) : String.fromUTF8? text.toUTF8 = some text := by
  simp [String.fromUTF8?, String.fromUTF8, String.toUTF8, text.isValidUTF8]

theorem toUTF8_of_fromUTF8? {bytes : ByteArray} {text : String}
    (h : String.fromUTF8? bytes = some text) : bytes = text.toUTF8 := by
  unfold String.fromUTF8? at h
  split at h
  case isTrue hv =>
    rw [← Option.some.inj h]
    rfl
  case isFalse => exact absurd h (by simp)

theorem read_eq_text {f : File} {text : String} :
    f.read = .text text ↔ f.entry = .file text.toUTF8 := by
  constructor
  · intro h
    unfold read at h
    split at h
    case h_3 bytes he =>
      split at h
      case h_1 s hs =>
        obtain rfl := Content.text.inj h
        rw [he, toUTF8_of_fromUTF8? hs]
      case h_2 => simp at h
    all_goals simp at h
  · intro h
    simp only [read, h, fromUTF8?_toUTF8]

theorem write_eq_ok {f g : File} {text : String} :
    f.write text = .ok g ↔ f.refusal = none ∧ g = ofBytes text.toUTF8 := by
  obtain ⟨entry, refusal⟩ := f
  cases refusal <;> simp [write, ofBytes, eq_comm]

@[simp] theorem read_ofBytes_toUTF8 (text : String) : (ofBytes text.toUTF8).read = .text text :=
  read_eq_text.2 rfl

end File
end StatusLine
