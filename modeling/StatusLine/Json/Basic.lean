/-!
# JSON values

Values as this program reads and writes them. Integers carry their value; a number with a fraction
or an exponent is only known to be one, since no field here takes it, and so is `-0`. Well-formed
text may also spell nothing that a reader can hold, such as half a surrogate pair; that is
`unreadable`, and harmless where the value is skipped.
-/
namespace StatusLine

inductive Json
  | null
  | bool (b : Bool)
  | integer (n : Int)
  | decimal
  | string (s : String)
  | array (items : List Json)
  | object (members : List (String × Json))
  /-- A string with an unpaired surrogate, a number past the largest double, or an object with
  such a key. -/
  | unreadable
  deriving Repr, Inhabited

namespace Json

mutual
def readableWithin (depth : Nat) : Json → Bool
  | unreadable => false
  | array items => allReadable depth items
  | object members => allMembersReadable depth members
  | _ => true

def allReadable : Nat → List Json → Bool
  | 0, _ => false
  | _ + 1, [] => true
  | depth + 1, v :: vs => readableWithin depth v && allReadable (depth + 1) vs

def allMembersReadable : Nat → List (String × Json) → Bool
  | 0, _ => false
  | _ + 1, [] => true
  | depth + 1, (_, v) :: ms => readableWithin depth v && allMembersReadable (depth + 1) ms
end

end Json
end StatusLine
