import FluxonAssist.Domain.Mapping
import FluxonAssist.Domain.Punycode
import FluxonAssist.Text.Composed

/-!
# Domain names

A domain name in its ASCII form: mapped, composed, and each label that goes beyond ASCII in Punycode
after `xn--`. Two names that differ only in how their letters are written have one ASCII form. Which
letters may stand together in a label is not looked at.
-/
set_option autoImplicit false
namespace FluxonAssist.Domain

open FluxonAssist.Text

def forbidden : List Char :=
  [' ', '#', '%', '/', ':', '<', '>', '?', '@', '[', '\\', ']', '^', '|']

def isForbidden (c : Char) : Bool :=
  decide (c.toNat < 0x20) || c.toNat == 0x7F || c.toNat == 0xFFFD || forbidden.contains c

def normalized (name : List Char) : List Char := composed (name.flatMap mapped)

def punycodeMark : List Char := ['x', 'n', '-', '-']

/-- Whether a text is the Punycode of a label that is normalized and goes beyond ASCII. -/
def isPunycode (text : List Char) : Bool :=
  match Punycode.decode? text with
  | none => false
  | some label => label.any (fun c => decide (0x80 ≤ c.toNat)) && normalized label == label

def asciiLabel? (label : List Char) : Option (List Char) :=
  match afterStart? punycodeMark label with
  | some text => if isPunycode text then some label else none
  | none =>
    if label.all fun c => decide (c.toNat < 0x80) then some label
    else some (punycodeMark ++ Punycode.encode label)

def joinLabels : List (List Char) → List Char
  | [] => []
  | [label] => label
  | label :: rest => label ++ '.' :: joinLabels rest

def ascii? (name : List Char) : Option String :=
  let name := normalized name
  if name.any isForbidden then none
  else
    match (pieces (fun c => c == '.') name).mapM asciiLabel? with
    | some labels => some (String.ofList (joinLabels labels))
    | none => none

end FluxonAssist.Domain
