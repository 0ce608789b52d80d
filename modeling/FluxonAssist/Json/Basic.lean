import FluxonAssist.Ascending
import FluxonAssist.Decimal.Double

/-!
# JSON values

A value keeps its document's order: the members of an object stand as they were written, repeated
keys included. Two readings are taken of it. `member?` and `keys` read an object as a map in which
the last of repeated keys counts and the keys are sorted; the catalog decoder reads the members one
after the other.
-/
set_option autoImplicit false
namespace FluxonAssist

/-- A number by the form of its literal. -/
inductive Number where
  /-- An integer literal without a sign, below `2^64`. -/
  | natural (n : Nat)
  /-- An integer literal with a minus sign, `-n` for `1 ≤ n ≤ 2^63`. -/
  | negative (n : Nat)
  /-- Every other literal, read as a double of this magnitude. -/
  | double (isNegative : Bool) (significand : Nat) (exponent : Int)
  deriving DecidableEq, Repr

/-- A JSON value in document order. -/
inductive Json where
  | null
  | bool (b : Bool)
  | number (n : Number)
  | string (s : String)
  | array (items : List Json)
  | object (members : List (String × Json))
  deriving Inhabited

namespace Json

/-- The value of a key; the last of repeated keys counts. -/
def member? (key : String) : List (String × Json) → Option Json
  | [] => none
  | (k, value) :: rest =>
    match member? key rest with
    | some later => some later
    | none => if k = key then some value else none

def keys (members : List (String × Json)) : List String := ascending (members.map Prod.fst)

def asString? : Json → Option String
  | .string s => some s
  | _ => none

def asBool? : Json → Option Bool
  | .bool b => some b
  | _ => none

def asArray? : Json → Option (List Json)
  | .array items => some items
  | _ => none

def asObject? : Json → Option (List (String × Json))
  | .object members => some members
  | _ => none

def asNat? : Json → Option Nat
  | .number (.natural n) => some n
  | _ => none

def asInt? : Json → Option Int
  | .number (.natural n) => some n
  | .number (.negative n) => some (-n)
  | _ => none

def get? (value : Json) (key : String) : Option Json :=
  match value with
  | .object members => member? key members
  | _ => none

end Json
end FluxonAssist
