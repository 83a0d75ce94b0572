import StatusLine.Json.Basic

/-!
# Records in JSON

A record with named fields is read from an object with those members, others being ignored and none
of them given twice, or from an array of its fields in order, the last ones possibly missing. A name
out of a list is read from a string, or from an object with that one key and nothing in it.
-/
namespace StatusLine.Json

/-- The value of a member that occurs at most once; nothing at all if it occurs twice. -/
def field? (members : List (String × Json)) (name : String) : Option (Option Json) :=
  match members.filter (·.1 == name) with
  | [] => some none
  | [m] => some (some m.2)
  | _ => none

def fields? (names : List String) : Json → Option (List (Option Json))
  | object members => names.mapM (field? members)
  | array items =>
    if items.length ≤ names.length then
      some (items.map some ++ List.replicate (names.length - items.length) none)
    else none
  | _ => none

def string? : Json → Option String
  | string s => some s
  | _ => none

def bool? : Json → Option Bool
  | bool b => some b
  | _ => none

def integer? : Json → Option Int
  | integer n => some n
  | _ => none

def list? {α : Type} (read : Json → Option α) : Json → Option (List α)
  | array items => items.mapM read
  | _ => none

/-- A name: a string, or an object whose only key it is, with `null` as the value. -/
def name? : Json → Option String
  | string s => some s
  | object [(s, null)] => some s
  | _ => none

def looseName? : Json → Option String
  | object [(s, object [])] => some s
  | v => name? v

def required {α : Type} (read : Json → Option α) (v : Option Json) : Option α := v.bind read

def withDefault {α : Type} (read : Json → Option α) (default : α) : Option Json → Option α
  | none => some default
  | some v => read v

def optional {α : Type} (read : Json → Option α) : Option Json → Option (Option α)
  | none | some null => some none
  | some v => (read v).map some

end StatusLine.Json
