import FluxonAssist.Text.Hexadecimal
import FluxonAssist.Text.Pieces

/-!
# Numeric addresses

Four octets may be written as one to four numbers, each decimal, octal after a zero or hexadecimal
after `0x`, of which the last fills all the octets that are left. Eight pieces of 16 bits are
written in hexadecimal; two colons stand for at least one piece that is zero, and the last two
pieces may be written as four octets.
-/
set_option autoImplicit false
namespace FluxonAssist.Uri

open FluxonAssist.Text

/-- The number of digits in a base up to ten; none if a character is no such digit. -/
def digits? (base : Nat) (text : List Char) : Option Nat :=
  if text.all fun c => isAsciiDigit c && decide (c.toNat - 48 < base) then
    some (text.foldl (fun n c => n * base + (c.toNat - 48)) 0)
  else none

def hexDigits? (text : List Char) : Option Nat :=
  if text.all fun c => (hexDigit? c).isSome then some (hexValue text) else none

def addressNumber? (text : List Char) : Option Nat :=
  match text with
  | [] => none
  | '0' :: 'x' :: rest => hexDigits? rest
  | '0' :: 'X' :: rest => hexDigits? rest
  | '0' :: c :: rest => digits? 8 (c :: rest)
  | text => digits? 10 text

/-- The parts of a name between its full stops, without an empty last one. -/
def nameParts (name : List Char) : List (List Char) :=
  let parts := pieces (fun c => c == '.') name
  if 1 < parts.length ∧ parts.getLast? = some [] then parts.dropLast else parts

/-- Whether a name has to be an address of four octets, because its last part is a number. -/
def endsInNumber (name : List Char) : Bool :=
  match (nameParts name).getLast? with
  | none => false
  | some part => (!part.isEmpty && part.all isAsciiDigit) || (addressNumber? part).isSome

/-- The address of numbers in order: all but the last are octets, and the last fills the rest. -/
def joinNumbers? (numbers : List Nat) : Option Nat :=
  match numbers.reverse with
  | [] => none
  | last :: before =>
    let room := Nat.pow 256 (4 - before.length)
    if 3 < before.length ∨ room ≤ last ∨ before.any fun n => decide (255 < n) then none
    else some (before.reverse.foldl (fun sum n => sum * 256 + n) 0 * room + last)

def fourOctets? (name : List Char) : Option Nat :=
  ((nameParts name).mapM addressNumber?).bind joinNumbers?

/-- A decimal octet without leading zeros. -/
def octet? (text : List Char) : Option Nat :=
  match text with
  | [] => none
  | '0' :: _ :: _ => none
  | text => (digits? 10 text).bind fun n => if n ≤ 255 then some n else none

/-- The two pieces that four decimal octets stand for. -/
def octetPieces? (text : List Char) : Option (List Nat) :=
  match (pieces (fun c => c == '.') text).mapM octet? with
  | some [a, b, c, d] => some [a * 256 + b, c * 256 + d]
  | _ => none

/-- The pieces that a text without two colons in a row stands for. -/
def pieceList? (text : List Char) : Option (List Nat) :=
  if text = [] then some []
  else
    let parts := pieces (fun c => c == ':') text
    let last := parts.getLastD []
    let piece? := fun (part : List Char) =>
      if part.isEmpty ∨ 4 < part.length then none else (hexDigits? part).map fun n => [n]
    let lastPieces := if last.contains '.' then octetPieces? last else piece? last
    match parts.dropLast.mapM piece?, lastPieces with
    | some before, some lastPieces => some (before.flatten ++ lastPieces)
    | _, _ => none

def splitColons? : List Char → Option (List Char × List Char)
  | ':' :: ':' :: rest => some ([], rest)
  | c :: rest => (splitColons? rest).map fun (before, after) => (c :: before, after)
  | [] => none

def eightPieces? (text : List Char) : Option (List Nat) :=
  match splitColons? text with
  | none => (pieceList? text).bind fun all => if all.length = 8 then some all else none
  | some (before, after) =>
    match if before.contains '.' then none else pieceList? before, pieceList? after with
    | some before, some after =>
      if before.length + after.length ≤ 7 then
        some (before ++ List.replicate (8 - before.length - after.length) 0 ++ after)
      else none
    | _, _ => none

end FluxonAssist.Uri
