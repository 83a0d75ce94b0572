import StatusLine.Placeholder.Basic
import StatusLine.Text.Escaped
import StatusLine.TimeSpan

/-!
# Reading placeholders

The body of a placeholder is a letter and then modifiers between commas, a comma inside a modifier
written with a backslash. A modifier is one identifying character and a value. Each modifier fills
a slot of the placeholder, and a slot is filled once: refilling it is reported before its value is
looked at. Modifiers are applied from left to right and the first fault wins.
-/
namespace StatusLine

def Modifier.identifier (m : List Char) : String := String.ofList (m.take 1)

namespace DirectoryName

/-- A whole number that may carry one sign, if it is neither negative nor past the safe integers. -/
def offset? (value : List Char) : Option Nat := do
  let n ← match value with
    | '+' :: ds => Digits.read? ds
    | '-' :: ds => (Digits.read? ds).filter (· == 0)
    | ds => Digits.read? ds
  if n ≤ Bounds.safeMax then some n else none

def apply (d : DirectoryName) (m : List Char) : Except Fault DirectoryName :=
  match m with
  | '+' :: value =>
    if d.offset.isSome then .error (.modifierRepeated "+")
    else match offset? value with
      | some n => .ok { d with offset := some n }
      | none => .error (.directoryOffsetMalformed (String.ofList m))
  | '>' :: value =>
    if d.format.isSome then .error (.modifierRepeated ">")
    else match WordFormat.ofName? (String.ofList value) with
      | some f => .ok { d with format := some f }
      | none => .error (.modifierValueUnknown (String.ofList m) WordFormat.names)
  | '^' :: value =>
    if d.casing.isSome then .error (.modifierRepeated "^")
    else match WordCasing.ofName? (String.ofList value) with
      | some c => .ok { d with casing := some c }
      | none => .error (.modifierValueUnknown (String.ofList m) WordCasing.names)
  | '-' :: value =>
    if d.joiner.isSome then .error (.modifierRepeated "-")
    else .ok { d with joiner := some (String.ofList value) }
  | _ => .error (.modifierUnknown (Modifier.identifier m))

end DirectoryName

namespace GitReference

def apply (r : Option GitReference) (m : List Char) : Except Fault (Option GitReference) :=
  match m with
  | '?' :: value =>
    if r.isSome then .error (.modifierRepeated "?")
    else match ofName? (String.ofList value) with
      | some r => .ok (some r)
      | none => .error (.modifierValueUnknown (String.ofList m) names)
  | _ => .error (.modifierUnknown (Modifier.identifier m))

end GitReference

namespace InputChoice

/-- The two lists share one slot, and there are two ways to say that it is filled. -/
def apply (i : InputChoice) (m : List Char) : Except Fault InputChoice :=
  match m with
  | '=' :: value =>
    if i.mandatory.isSome then .error (.modifierRepeated "=")
    else if i.optional.isSome then .error (.modifierConflict "=" "~")
    else .ok { i with mandatory := some ((Escaped.split ';' value).map String.ofList) }
  | '~' :: value =>
    if i.optional.isSome then .error (.modifierRepeated "~")
    else if i.mandatory.isSome then .error (.modifierConflict "~" "=")
    else .ok { i with optional := some ((Escaped.split ';' value).map String.ofList) }
  | _ => .error (.modifierUnknown (Modifier.identifier m))

end InputChoice

namespace Rounding

def splitSign : List Char → Direction × List Char
  | '+' :: range => (.up, range)
  | '-' :: range => (.down, range)
  | range => (.nearest, range)

def ofAmount (text : String) (direction : Direction) (count : Int) (unit : TimeUnit) :
    Except Fault Rounding :=
  if ¬ Bounds.IsWord32 count then .error (.roundingMalformed text)
  else if IsValid ⟨count.toNat, unit, direction⟩ then .ok ⟨count.toNat, unit, direction⟩
  else .error (.roundingUneven text unit.perParent)

def ofSpan (text : String) (direction : Direction) (span : TimeSpan) : Except Fault Rounding :=
  match span.hours, span.minutes with
  | some hours, none => ofAmount text direction hours .hours
  | none, some minutes => ofAmount text direction minutes .minutes
  | _, _ => .error (.roundingMalformed text)

def read (value : List Char) : Except Fault Rounding := do
  let (direction, range) := splitSign value
  ofSpan (String.ofList value) direction (← TimeSpan.parse (String.ofList range))

end Rounding

namespace ClockTime

def namedPattern : String → String
  | "iso" => "[HH]-[MM]-00"
  | "american" => "[h]:[MM] [t]"
  | "german" => "[HH]:[MM]"
  | custom => custom

def shiftOf (m : List Char) : Except Fault Int := do
  let span ← TimeSpan.parse (String.ofList m)
  match span.totalSeconds with
  | some seconds =>
    if Bounds.IsSafe seconds then .ok seconds else .error (.timeOffsetTooLarge (String.ofList m))
  | none => .error (.timeOffsetTooLarge (String.ofList m))

/-- Both signs fill the one slot of the shift. -/
def apply (t : ClockTime) (m : List Char) : Except Fault ClockTime :=
  match m with
  | '+' :: _ =>
    if t.offset.isSome then .error (.modifierRepeated "+")
    else do return { t with offset := some (← shiftOf m) }
  | '-' :: _ =>
    if t.offset.isSome then .error (.modifierRepeated "-")
    else do return { t with offset := some (← shiftOf m) }
  | '~' :: value =>
    if t.round.isSome then .error (.modifierRepeated "~")
    else do return { t with round := some (← Rounding.read value) }
  | '=' :: value =>
    if t.format.isSome then .error (.modifierRepeated "=")
    else .ok { t with format := some (namedPattern (String.ofList value)) }
  | _ => .error (.modifierUnknown (Modifier.identifier m))

end ClockTime

namespace Placeholder

def modifiers (text : List Char) : List (List Char) :=
  if text.isEmpty then [] else Escaped.split ',' text

def read (body : List Char) : Except Fault Placeholder :=
  let ms := modifiers body.tail
  match body.head? with
  | some 'd' => .directory <$> ms.foldlM DirectoryName.apply DirectoryName.empty
  | some 'g' => do
    match ← ms.foldlM GitReference.apply none with
    | some r => .ok (.git r)
    | none => .error .referenceTypeMissing
  | some 'i' => .input <$> ms.foldlM InputChoice.apply InputChoice.empty
  | some 't' => .time <$> ms.foldlM ClockTime.apply ClockTime.empty
  | _ => .error (.placeholderUnknown (String.ofList (body.take 1)))

example : read "g?branch".toList = .ok (.git .branch) := rfl
example : read "t+1h,~15m".toList =
    .ok (.time ⟨some 3600, some ⟨15, .minutes, .nearest⟩, none⟩) := rfl
example : read "d+1,+1".toList = .error (.modifierRepeated "+") := rfl

end Placeholder
end StatusLine
