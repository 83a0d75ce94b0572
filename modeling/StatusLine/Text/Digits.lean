/-!
# Decimal digits

Reading and writing of natural numbers in the ten ASCII digits. No sign, no separators.
-/
namespace StatusLine.Digits

def isDigit (c : Char) : Bool := '0' ≤ c && c ≤ '9'

def digit (c : Char) : Nat := c.toNat - '0'.toNat

def valueFrom (n : Nat) (cs : List Char) : Nat := cs.foldl (fun n c => 10 * n + digit c) n

def value (cs : List Char) : Nat := valueFrom 0 cs

def read? (cs : List Char) : Option Nat :=
  if !cs.isEmpty && cs.all isDigit then some (value cs) else none

def padded (width n : Nat) : String :=
  let s := toString n
  String.ofList (List.replicate (width - s.length) '0') ++ s

theorem valueFrom_append (n : Nat) (a b : List Char) :
    valueFrom n (a ++ b) = valueFrom (valueFrom n a) b := List.foldl_append ..

theorem value_append (a b : List Char) : value (a ++ b) = valueFrom (value a) b :=
  valueFrom_append 0 a b

end StatusLine.Digits
