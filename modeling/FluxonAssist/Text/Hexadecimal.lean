import FluxonAssist.Text.Word

/-!
# Hexadecimal digits

Digits of either case, and the number that a row of them stands for.
-/
set_option autoImplicit false
namespace FluxonAssist.Text

def hexDigit? (c : Char) : Option Nat :=
  if isAsciiDigit c then some (c.toNat - 48)
  else if 65 ≤ c.toNat ∧ c.toNat ≤ 70 then some (c.toNat - 55)
  else if 97 ≤ c.toNat ∧ c.toNat ≤ 102 then some (c.toNat - 87)
  else none

/-- The number that a row of digits stands for; other characters count as zero. -/
def hexValue (digits : List Char) : Nat :=
  digits.foldl (fun n c => n * 16 + (hexDigit? c).getD 0) 0

end FluxonAssist.Text
