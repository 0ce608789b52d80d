import FluxonAssist.Json.Basic
import FluxonAssist.Text.Word

/-!
# Reading JSON

The strict grammar: white space is the space, the tab and the two line ends; a string holds no
control character below U+0020 and no lone surrogate escape; a number that overflows a double is
refused; and arrays and objects nest at most 127 deep. A reader takes the text and gives the value
with what is left of the text; those that loop take a bound on their steps, for which one more than
the length of the whole text is enough.
-/
set_option autoImplicit false
namespace FluxonAssist.Json

open FluxonAssist.Text

abbrev Reader (α : Type) := List Char → Option (α × List Char)

def isSpace (c : Char) : Bool := c == ' ' || c == '\t' || c == '\n' || c == '\r'

def skipSpace (cs : List Char) : List Char := cs.dropWhile isSpace

def digitValue (c : Char) : Nat := c.toNat - 48

def hexValue? (c : Char) : Option Nat :=
  if isAsciiDigit c then some (digitValue c)
  else if 65 ≤ c.toNat ∧ c.toNat ≤ 70 then some (c.toNat - 55)
  else if 97 ≤ c.toNat ∧ c.toNat ≤ 102 then some (c.toNat - 87)
  else none

def hexUnit : Reader Nat
  | a :: b :: c :: d :: rest => do
    let a ← hexValue? a
    let b ← hexValue? b
    let c ← hexValue? c
    let d ← hexValue? d
    some (((a * 16 + b) * 16 + c) * 16 + d, rest)
  | _ => none

/-- The character of a `\u` escape, whose first four digits come next; a high surrogate needs the
escape of a low one after it. -/
def unicodeEscape (cs : List Char) : Option (Char × List Char) :=
  match hexUnit cs with
  | none => none
  | some (unit, rest) =>
    if 0xDC00 ≤ unit ∧ unit ≤ 0xDFFF then none
    else if 0xD800 ≤ unit ∧ unit ≤ 0xDBFF then
      match rest with
      | '\\' :: 'u' :: more =>
        match hexUnit more with
        | some (low, rest) =>
          if 0xDC00 ≤ low ∧ low ≤ 0xDFFF then
            some (Char.ofNat (0x10000 + (unit - 0xD800) * 0x400 + (low - 0xDC00)), rest)
          else none
        | none => none
      | _ => none
    else some (Char.ofNat unit, rest)

def escape : Reader Char
  | [] => none
  | c :: rest =>
    if c = 'u' then unicodeEscape rest
    else if c = '\x22' ∨ c = '\\' ∨ c = '/' then some (c, rest)
    else if c = 'b' then some ('\x08', rest)
    else if c = 'f' then some ('\x0c', rest)
    else if c = 'n' then some ('\n', rest)
    else if c = 'r' then some ('\r', rest)
    else if c = 't' then some ('\t', rest)
    else none

/-- The rest of a string up to its closing quote, after the characters already read in reverse. -/
def stringTail : Nat → List Char → Reader String
  | 0, _, _ => none
  | _ + 1, _, [] => none
  | fuel + 1, read, c :: rest =>
    if c = '\x22' then some (String.ofList read.reverse, rest)
    else if c = '\\' then
      match escape rest with
      | some (e, rest) => stringTail fuel (e :: read) rest
      | none => none
    else if c.toNat < 0x20 then none
    else stringTail fuel (c :: read) rest

def stringBody (fuel : Nat) : Reader String := stringTail fuel []

/-- Whether a significand with one more digit no longer fits 64 bits. -/
def overflows (significand digit : Nat) : Bool := decide (UInt64.size ≤ significand * 10 + digit)

/-- The significand of the digits before the point, and how many of them were left out because it
would not fit 64 bits. -/
def wholeDigits (significand : Nat) : List Char → Nat × Nat
  | [] => (significand, 0)
  | c :: rest =>
    if overflows significand (digitValue c) then (significand, rest.length + 1)
    else wholeDigits (significand * 10 + digitValue c) rest

/-- The significand with the digits after the point that still fit 64 bits, and their number. -/
def fractionDigits (significand places : Nat) : List Char → Nat × Nat
  | [] => (significand, places)
  | c :: rest =>
    if overflows significand (digitValue c) then (significand, places)
    else fractionDigits (significand * 10 + digitValue c) (places + 1) rest

def decimalValue (digits : List Char) : Nat := digits.foldl (fun n c => n * 10 + digitValue c) 0

/-- An exponent if the text starts with one; `none` for `e` without digits. -/
def exponentPart : Reader (Option Int) := fun cs =>
  match cs with
  | c :: rest =>
    if c = 'e' ∨ c = 'E' then
      let (isNegative, rest) :=
        match rest with
        | '-' :: rest => (true, rest)
        | '+' :: rest => (false, rest)
        | rest => (false, rest)
      let digits := rest.takeWhile isAsciiDigit
      if digits = [] then none
      else
        let value := Int.ofNat (decimalValue digits)
        some (some (if isNegative then -value else value), rest.dropWhile isAsciiDigit)
    else some (none, cs)
  | [] => some (none, cs)

def doubleNumber (isNegative : Bool) (significand : Nat) (exponent : Int) (rest : List Char) :
    Option (Number × List Char) :=
  match Decimal.toDouble? significand exponent with
  | some _ => some (.double isNegative significand exponent, rest)
  | none => none

def numberTail (isNegative : Bool) (significand dropped : Nat) (cs : List Char) :
    Option (Number × List Char) :=
  match cs with
  | '.' :: rest =>
    let digits := rest.takeWhile isAsciiDigit
    if digits = [] then none
    else
      let (significand, places) := fractionDigits significand 0 digits
      match exponentPart (rest.dropWhile isAsciiDigit) with
      | none => none
      | some (exponent, rest) =>
        doubleNumber isNegative significand
          (Int.ofNat dropped - Int.ofNat places + exponent.getD 0) rest
  | cs =>
    match exponentPart cs with
    | none => none
    | some (some exponent, rest) =>
      doubleNumber isNegative significand (Int.ofNat dropped + exponent) rest
    | some (none, rest) =>
      if dropped ≠ 0 then doubleNumber isNegative significand (Int.ofNat dropped) rest
      else if isNegative then
        if significand = 0 ∨ 0x8000000000000000 < significand then
          doubleNumber true significand 0 rest
        else some (.negative significand, rest)
      else some (.natural significand, rest)

def unsignedNumber (isNegative : Bool) : Reader Number := fun cs =>
  let digits := cs.takeWhile isAsciiDigit
  let rest := cs.dropWhile isAsciiDigit
  match digits with
  | [] => none
  | ['0'] => numberTail isNegative 0 0 rest
  | '0' :: _ => none
  | digits =>
    let (significand, dropped) := wholeDigits 0 digits
    numberTail isNegative significand dropped rest

def scalar (fuel : Nat) : Reader Json
  | 'n' :: 'u' :: 'l' :: 'l' :: rest => some (.null, rest)
  | 't' :: 'r' :: 'u' :: 'e' :: rest => some (.bool true, rest)
  | 'f' :: 'a' :: 'l' :: 's' :: 'e' :: rest => some (.bool false, rest)
  | '\x22' :: rest => (stringBody fuel rest).map fun (s, rest) => (.string s, rest)
  | '-' :: rest => (unsignedNumber true rest).map fun (n, rest) => (.number n, rest)
  | cs => (unsignedNumber false cs).map fun (n, rest) => (.number n, rest)

/-- One or more items divided by commas up to the closing character, after those already read in
reverse. -/
def separated {α : Type} (close : Char) (item : Reader α) : Nat → List α → Reader (List α)
  | 0, _, _ => none
  | fuel + 1, read, cs =>
    match item cs with
    | none => none
    | some (a, rest) =>
      match skipSpace rest with
      | [] => none
      | c :: rest =>
        if c = ',' then separated close item fuel (a :: read) rest
        else if c = close then some ((a :: read).reverse, rest)
        else none

def delimited {α : Type} (close : Char) (item : Reader α) (fuel : Nat) : Reader (List α) :=
  fun cs => match skipSpace cs with
  | [] => none
  | c :: rest => if c = close then some ([], rest) else separated close item fuel [] (c :: rest)

def keyed (value : Reader Json) (fuel : Nat) : Reader (String × Json) := fun cs =>
  match skipSpace cs with
  | '\x22' :: rest =>
    match stringBody fuel rest with
    | none => none
    | some (key, rest) =>
      match skipSpace rest with
      | ':' :: rest => (value rest).map fun (v, rest) => ((key, v), rest)
      | _ => none
  | _ => none

/-- A value in which arrays and objects nest at most `depth` deep. -/
def value (fuel : Nat) : Nat → Reader Json
  | 0, cs => scalar fuel (skipSpace cs)
  | depth + 1, cs =>
    match skipSpace cs with
    | '[' :: rest =>
      (delimited ']' (value fuel depth) fuel rest).map fun (items, rest) => (.array items, rest)
    | '\x7b' :: rest =>
      (delimited '\x7d' (keyed (value fuel depth) fuel) fuel rest).map fun (members, rest) =>
        (.object members, rest)
    | cs => scalar fuel cs

def maxDepth : Nat := 127

def parse? (text : String) : Option Json :=
  let cs := text.toList
  match value (cs.length + 1) maxDepth cs with
  | some (v, rest) => if skipSpace rest = [] then some v else none
  | none => none

end FluxonAssist.Json
