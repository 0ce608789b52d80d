import FluxonAssist.Ascending
import FluxonAssist.Text.Word

/-!
# Punycode

A label with characters above ASCII is written in letters, digits and hyphens. Its ASCII characters
come first, and then the others as insertions in ascending order: each is a number that tells how
many possible insertions are passed over before it. The numbers are written in base 36 with digits
from the least, and a digit below the threshold of its place ends a number. The thresholds follow a
bias that adapts to the numbers written so far.
-/
set_option autoImplicit false
namespace FluxonAssist.Domain.Punycode

open FluxonAssist.Text

def digitChar (digit : Nat) : Char :=
  if digit < 26 then Char.ofNat (97 + digit) else Char.ofNat (22 + digit)

def digitOf? (c : Char) : Option Nat :=
  if 97 ≤ c.toNat ∧ c.toNat ≤ 122 then some (c.toNat - 97)
  else if isAsciiDigit c then some (c.toNat - 22)
  else none

/-- The threshold of a place, which counts in steps of 36. -/
def threshold (place bias : Nat) : Nat := min 26 (max 1 (place - bias))

/-- Scales a number down to 455 at most, counting 36 for each step. -/
def scaleDelta (delta steps : Nat) : Nat × Nat :=
  if 455 < delta then scaleDelta (delta / 35) (steps + 36) else (delta, steps)
termination_by delta
decreasing_by exact Nat.div_lt_self (by omega) (by omega)

/-- The bias after a number, when `count` characters are in place. -/
def adapt (delta count : Nat) (isFirst : Bool) : Nat :=
  let damped := if isFirst then delta / 700 else delta / 2
  let (delta, steps) := scaleDelta (damped + damped / count) 0
  steps + 36 * delta / (delta + 38)

def digitsFrom (bias place number : Nat) : List Char :=
  let t := threshold place bias
  if number < t then [digitChar number]
  else digitChar (t + (number - t) % (36 - t)) ::
    digitsFrom bias (place + 36) ((number - t) / (36 - t))
termination_by number
decreasing_by
  have hpos : 1 ≤ threshold place bias := by unfold threshold; omega
  have hdiv := Nat.div_le_self (number - threshold place bias) (36 - threshold place bias)
  omega

/-- The insertions so far: how many characters are in place, how many insertions have been passed
over since the last one, and the digits. -/
structure Progress where
  placed : Nat
  delta : Nat := 0
  bias : Nat := 72
  digits : List Char := []

def Progress.pass (basic code : Nat) (progress : Progress) (c : Char) : Progress :=
  if c.toNat < code then { progress with delta := progress.delta + 1 }
  else if c.toNat = code then
    { placed := progress.placed + 1
      delta := 0
      bias := adapt progress.delta (progress.placed + 1) (progress.placed == basic)
      digits := progress.digits ++ digitsFrom progress.bias 36 progress.delta }
  else progress

/-- The rounds of the code points of a label in ascending order, the next possible one being `next`.
-/
def rounds (label : List Char) (basic : Nat) : Nat → Progress → List Nat → Progress
  | _, progress, [] => progress
  | next, progress, code :: rest =>
    let start := { progress with
      delta := progress.delta + (code - next) * (progress.placed + 1) }
    let done := label.foldl (fun progress c => progress.pass basic code c) start
    rounds label basic (code + 1) { done with delta := done.delta + 1 } rest

def encode (label : List Char) : List Char :=
  let basic := label.filter fun c => decide (c.toNat < 0x80)
  let codes := ascending ((label.map Char.toNat).filter fun code => decide (0x80 ≤ code))
  let progress := rounds label basic.length 0x80 { placed := basic.length } codes
  basic ++ (if basic.isEmpty then [] else ['-']) ++ progress.digits

def number? (bias place weight sum : Nat) : List Char → Option (Nat × List Char)
  | [] => none
  | c :: rest =>
    match digitOf? c with
    | none => none
    | some digit =>
      let t := threshold place bias
      let sum := sum + digit * weight
      if digit < t then some (sum, rest)
      else number? bias (place + 36) (weight * (36 - t)) sum rest

/-- Makes the insertions of a text, at most `fuel` of them, into the characters in place. -/
def insertions (next index bias : Nat) (isFirst : Bool) (placed : List Char) :
    Nat → List Char → Option (List Char)
  | _, [] => some placed
  | 0, _ :: _ => none
  | fuel + 1, text =>
    match number? bias 36 1 0 text with
    | none => none
    | some (delta, rest) =>
      let count := placed.length + 1
      let index := index + delta
      let code := next + index / count
      let position := index % count
      if h : code.isValidChar then
        insertions code (position + 1) (adapt delta count isFirst) false
          (placed.take position ++ Char.ofNatAux code h :: placed.drop position) fuel rest
      else none

/-- The ASCII characters of a label in Punycode, and the text of its insertions. -/
def parts (text : List Char) : List Char × List Char :=
  match text.reverse.dropWhile fun c => c != '-' with
  | [] => ([], text)
  | _ :: before => (before.reverse, text.drop (before.length + 1))

def decode? (text : List Char) : Option (List Char) :=
  let (basic, digits) := parts text
  insertions 0x80 0 72 true basic digits.length digits

end FluxonAssist.Domain.Punycode
