/-!
# UTF-16 measure

Editors count columns in UTF-16 code units: two for a character above U+FFFF, one for every other.
`charsWithin n cs` is the greatest number of leading characters that fit into `n` units, so an
offset that falls between the two halves of a surrogate pair addresses the start of its character.
-/
set_option autoImplicit false
namespace FluxonAssist.Text

def unitsOf (c : Char) : Nat := if c.toNat < 0x10000 then 1 else 2

def units : List Char → Nat
  | [] => 0
  | c :: rest => unitsOf c + units rest

def charsWithin : Nat → List Char → Nat
  | _, [] => 0
  | n, c :: rest => if unitsOf c ≤ n then charsWithin (n - unitsOf c) rest + 1 else 0

end FluxonAssist.Text
