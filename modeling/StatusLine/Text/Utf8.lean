/-!
# Bytes as text

Bytes that are not well-formed UTF-8 still have a text: each longest beginning of a character that
the next byte breaks off, and each byte that begins none, shows as the replacement character.
-/
namespace StatusLine.Utf8

def replacement : Char := Char.ofNat 0xFFFD

/-- A character of which some bytes are read: how many are missing, the bits so far, and the range
of the next byte. -/
structure Partial where
  missing : Nat
  bits : Nat
  low : UInt8
  high : UInt8

inductive Start
  | whole (c : Char)
  | partly (p : Partial)
  | nothing

def start (b : UInt8) : Start :=
  if b < 0x80 then .whole (Char.ofNat b.toNat)
  else if b < 0xC2 then .nothing
  else if b < 0xE0 then .partly ⟨1, b.toNat - 0xC0, 0x80, 0xBF⟩
  else if b < 0xF0 then
    .partly ⟨2, b.toNat - 0xE0, if b = 0xE0 then 0xA0 else 0x80, if b = 0xED then 0x9F else 0xBF⟩
  else if b < 0xF5 then
    .partly ⟨3, b.toNat - 0xF0, if b = 0xF0 then 0x90 else 0x80, if b = 0xF4 then 0x8F else 0xBF⟩
  else .nothing

def opening (b : UInt8) : List Char × Option Partial :=
  match start b with
  | .whole c => ([c], none)
  | .partly p => ([], some p)
  | .nothing => ([replacement], none)

def step (p : Option Partial) (b : UInt8) : List Char × Option Partial :=
  match p with
  | none => opening b
  | some p =>
    if p.low ≤ b ∧ b ≤ p.high then
      let bits := 64 * p.bits + (b.toNat - 0x80)
      if p.missing ≤ 1 then ([Char.ofNat bits], none)
      else ([], some ⟨p.missing - 1, bits, 0x80, 0xBF⟩)
    else
      let (shown, rest) := opening b
      (replacement :: shown, rest)

def decodeFrom (p : Option Partial) : List UInt8 → List Char
  | [] => if p.isSome then [replacement] else []
  | b :: bs =>
    let (shown, p) := step p b
    shown ++ decodeFrom p bs

def decode (bytes : List UInt8) : String := String.ofList (decodeFrom none bytes)

example : decode [0x61, 0xC3, 0xA9, 0xF0, 0x9F, 0x98, 0x80] = "aé😀" := by decide
example : decode [0xE2, 0x82, 0x41, 0xFF] = "\uFFFDA\uFFFD" := by decide

end StatusLine.Utf8
