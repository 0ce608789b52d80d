import FluxonAssist.Text.Hexadecimal
import FluxonAssist.Text.Octets

/-!
# Percent escapes

In the parts of a URI an octet can be written as a percent sign and two hexadecimal digits. Each
part has a set of characters that are always written so, besides the controls and all that goes
beyond ASCII.
-/
set_option autoImplicit false
namespace FluxonAssist.Uri

open FluxonAssist.Text

def escape? : List Char → Option (Nat × List Char)
  | '%' :: high :: low :: rest =>
    match hexDigit? high, hexDigit? low with
    | some high, some low => some (high * 16 + low, rest)
    | _, _ => none
  | _ => none

def decodeFrom : Nat → List Char → List Nat
  | 0, _ => []
  | _ + 1, [] => []
  | fuel + 1, c :: rest =>
    match escape? (c :: rest) with
    | some (octet, rest) => octet :: decodeFrom fuel rest
    | none => octetsOf c ++ decodeFrom fuel rest

def decode (text : List Char) : List Nat := decodeFrom text.length text

def upperHex (n : Nat) : Char := if n < 10 then Char.ofNat (48 + n) else Char.ofNat (55 + n)

def percentEncoded (c : Char) : List Char :=
  (octetsOf c).flatMap fun octet => ['%', upperHex (octet / 16), upperHex (octet % 16)]

/-- A text with the characters of a set, the controls and everything above ASCII percent-encoded. -/
def encodeChars (set : List Char) (text : List Char) : List Char :=
  text.flatMap fun c =>
    if c.toNat < 0x20 ∨ 0x7F ≤ c.toNat ∨ set.contains c then percentEncoded c else [c]

def encode (set : List Char) (text : List Char) : String := String.ofList (encodeChars set text)

def fragmentSet : List Char := [' ', '\x22', '<', '>', '\x60']

def querySet : List Char := [' ', '\x22', '#', '<', '>']

def specialQuerySet : List Char := '\x27' :: querySet

def pathSet : List Char := fragmentSet ++ ['#', '?', '\x7b', '\x7d']

def userSet : List Char := pathSet ++ ['/', ':', ';', '=', '@', '[', '\\', ']', '^', '|']

end FluxonAssist.Uri
