/-!
# Octets of a text

The UTF-8 octets of characters, and the text of octets that may be no UTF-8: each longest run of
octets that begins a character and cannot be completed is read as U+FFFD.
-/
set_option autoImplicit false
namespace FluxonAssist.Text

def octetsOf (c : Char) : List Nat :=
  let n := c.toNat
  if n < 0x80 then [n]
  else if n < 0x800 then [0xC0 + n / 0x40, 0x80 + n % 0x40]
  else if n < 0x10000 then [0xE0 + n / 0x1000, 0x80 + n / 0x40 % 0x40, 0x80 + n % 0x40]
  else [0xF0 + n / 0x40000, 0x80 + n / 0x1000 % 0x40, 0x80 + n / 0x40 % 0x40, 0x80 + n % 0x40]

/-- The character in place of octets that are none. -/
def replacement : Char := Char.ofNat 0xFFFD

/-- What a leading octet announces: how many octets follow, the bounds of the first of them, and the
bits it brings itself. -/
def lead? (octet : Nat) : Option (Nat × Nat × Nat × Nat) :=
  if 0xC2 ≤ octet ∧ octet ≤ 0xDF then some (1, 0x80, 0xBF, octet - 0xC0)
  else if octet = 0xE0 then some (2, 0xA0, 0xBF, 0)
  else if octet = 0xED then some (2, 0x80, 0x9F, 0xD)
  else if 0xE1 ≤ octet ∧ octet ≤ 0xEF then some (2, 0x80, 0xBF, octet - 0xE0)
  else if octet = 0xF0 then some (3, 0x90, 0xBF, 0)
  else if 0xF1 ≤ octet ∧ octet ≤ 0xF3 then some (3, 0x80, 0xBF, octet - 0xF0)
  else if octet = 0xF4 then some (3, 0x80, 0x8F, 4)
  else none

/-- Reads the octets that a leading one announced: the character, or the replacement if one of them
is missing, and the octets from there on. -/
def continuation (owed low high bits : Nat) (octets : List Nat) : Char × List Nat :=
  match owed, octets with
  | 0, octets => (Char.ofNat bits, octets)
  | _ + 1, [] => (replacement, [])
  | owed + 1, octet :: rest =>
    if low ≤ octet ∧ octet ≤ high then
      continuation owed 0x80 0xBF (bits * 0x40 + (octet - 0x80)) rest
    else (replacement, octet :: rest)

def charsOfOctets : Nat → List Nat → List Char
  | 0, _ => []
  | _ + 1, [] => []
  | fuel + 1, octet :: rest =>
    if octet < 0x80 then Char.ofNat octet :: charsOfOctets fuel rest
    else
      match lead? octet with
      | none => replacement :: charsOfOctets fuel rest
      | some (owed, low, high, bits) =>
        let (c, rest) := continuation owed low high bits rest
        c :: charsOfOctets fuel rest

def textOfOctets (octets : List Nat) : String :=
  String.ofList (charsOfOctets octets.length octets)

end FluxonAssist.Text
