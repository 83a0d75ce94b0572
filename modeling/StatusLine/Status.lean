import StatusLine.Json.Record

/-!
# Statuses

A status is an availability and a message, as a chat shows it. A status template is a labelled
message with placeholders and the availability that goes with it. Both have a JSON form.
-/
namespace StatusLine

inductive Availability
  | online
  | away
  | busy
  | hidden
  deriving DecidableEq, Repr

namespace Availability

def all : List Availability := [online, away, busy, hidden]

def name : Availability → String
  | online => "online"
  | away => "away"
  | busy => "busy"
  | hidden => "hidden"

def ofName? (s : String) : Option Availability := all.find? (·.name == s)

theorem ofName?_name (a : Availability) : ofName? a.name = some a := by cases a <;> decide

def toJson (a : Availability) : Json := .string a.name

def ofJson? (v : Json) : Option Availability := v.name?.bind ofName?

@[simp] theorem ofJson?_toJson (a : Availability) : ofJson? a.toJson = some a := by
  simp [ofJson?, toJson, Json.name?, ofName?_name]

end Availability

structure Status where
  availability : Availability
  message : String
  deriving DecidableEq, Repr

namespace Status

def display (s : Status) : String := "[" ++ s.availability.name ++ "] " ++ s.message

def members (s : Status) : List (String × Json) :=
  [("availability", s.availability.toJson), ("message", .string s.message)]

def toJson (s : Status) : Json := .object s.members

def ofJson? (v : Json) : Option Status := do
  match ← v.fields? ["availability", "message"] with
  | [availability, message] =>
    return ⟨← Json.required Availability.ofJson? availability,
      ← Json.required Json.string? message⟩
  | _ => none

@[simp] theorem ofJson?_toJson (s : Status) : ofJson? s.toJson = some s := by
  simp [ofJson?, toJson, members, Json.fields?, Json.field?, Json.required, Json.string?]

end Status

structure StatusTemplate where
  label : String
  message : String
  availability : Availability
  deriving DecidableEq, Repr

namespace StatusTemplate

def display (t : StatusTemplate) : String :=
  t.label ++ "  [" ++ t.availability.name ++ "] " ++ t.message

def toJson (t : StatusTemplate) : Json :=
  .object [("label", .string t.label), ("message", .string t.message),
    ("availability", t.availability.toJson)]

def ofJson? (v : Json) : Option StatusTemplate := do
  match ← v.fields? ["label", "message", "availability"] with
  | [label, message, availability] =>
    return ⟨← Json.required Json.string? label, ← Json.required Json.string? message,
      ← Json.withDefault Availability.ofJson? .online availability⟩
  | _ => none

@[simp] theorem ofJson?_toJson (t : StatusTemplate) : ofJson? t.toJson = some t := by
  simp [ofJson?, toJson, Json.fields?, Json.field?, Json.required, Json.withDefault, Json.string?]

end StatusTemplate
end StatusLine
