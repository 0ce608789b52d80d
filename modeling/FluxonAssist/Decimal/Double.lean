import FluxonAssist.Decimal.Shortest

/-!
# Decimals read as doubles

A decimal with a 64-bit significand is read as a double by one multiplication or division by a power
of ten, each step rounded; a magnitude past the largest double has no value. A double is written as
its shortest decimal.
-/
set_option autoImplicit false
namespace FluxonAssist.Decimal

def powerOfTen (k : Nat) : Float := Float.ofScientific 1 false k

/-- The double divided by `10^k`, in steps of at most `10^308`. -/
def scaleDown (f : Float) (k : Nat) : Float :=
  if k ≤ 308 then f / powerOfTen k
  else if f == 0.0 then f
  else scaleDown (f / powerOfTen 308) (k - 308)
termination_by k

/-- The double read from `significand · 10^exponent`, or `none` if it is too large. -/
def toDouble? (significand : Nat) (exponent : Int) : Option Float :=
  let f := significand.toUInt64.toFloat
  if 0 ≤ exponent then
    if exponent ≤ 308 then
      let g := f * powerOfTen exponent.toNat
      if g.isInf then none else some g
    else if f == 0.0 then some f
    else none
  else some (scaleDown f (-exponent).toNat)

def doubleText (f : Float) : String :=
  let bits := f.toBits.toNat
  let fraction := bits % 0x10000000000000
  let biased := bits / 0x10000000000000 % 0x800
  if bits = 0 then "0.0"
  else if biased = 0 then
    (Interval.ofBinary fraction (-1074) false).shortest.text
  else
    let atPower := fraction == 0 && decide (1 < biased)
    let interval :=
      Interval.ofBinary (fraction + 0x10000000000000) (Int.ofNat biased - 1075) atPower
    interval.shortest.text

end FluxonAssist.Decimal
