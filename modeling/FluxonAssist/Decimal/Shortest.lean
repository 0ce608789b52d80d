/-!
# Shortest decimals

A positive binary fraction `m · 2^q` stands for every real that rounds to it: the interval between
the midpoints to its two neighbours, ends included if `m` is even. The shortest decimal is the one
with the fewest digits in that interval, and of two such the nearer, or the even one when they are
equally near. All arithmetic is exact, over a numerator and a denominator.
-/
set_option autoImplicit false
namespace FluxonAssist.Decimal

/-- The decimal `digits · 10^exponent`. -/
structure Scientific where
  digits : Nat
  exponent : Int
  deriving DecidableEq, Repr

/-- A positive value and the midpoints to its neighbours, all over `4 · den`. -/
structure Interval where
  den : Nat
  value : Nat
  lower : Nat
  upper : Nat
  closed : Bool

/-- The interval of `m · 2^q`. A power of two that is not the least has its lower neighbour at half
the distance. -/
def Interval.ofBinary (m : Nat) (q : Int) (nearBelow : Bool) : Interval :=
  let scale := Nat.pow 2 q.toNat
  { den := Nat.pow 2 (-q).toNat
    value := 4 * m * scale
    lower := (4 * m - if nearBelow then 1 else 2) * scale
    upper := (4 * m + 2) * scale
    closed := m % 2 == 0 }

def Interval.holds (i : Interval) (d : Scientific) : Bool :=
  let num := 4 * d.digits * Nat.pow 10 d.exponent.toNat * i.den
  let up := Nat.pow 10 (-d.exponent).toNat
  if i.closed then decide (i.lower * up ≤ num) && decide (num ≤ i.upper * up)
  else decide (i.lower * up < num) && decide (num < i.upper * up)

/-- The two neighbours of the value among the multiples of `10^exponent`. -/
def Interval.neighbours (i : Interval) (exponent : Int) : Scientific × Scientific :=
  let unit := 4 * i.den * Nat.pow 10 exponent.toNat
  let below := i.value * Nat.pow 10 (-exponent).toNat / unit
  (⟨below, exponent⟩, ⟨below + 1, exponent⟩)

/-- Whether the lower neighbour is nearer to the value than the upper one, or as near and even. -/
def Interval.nearerBelow (i : Interval) (exponent : Int) : Bool :=
  let unit := 4 * i.den * Nat.pow 10 exponent.toNat
  let scaled := i.value * Nat.pow 10 (-exponent).toNat
  let rest := 2 * (scaled % unit)
  decide (rest < unit) || (rest == unit && scaled / unit % 2 == 0)

def Interval.nearest? (i : Interval) (exponent : Int) : Option Scientific :=
  let (below, above) := i.neighbours exponent
  match i.holds below, i.holds above with
  | true, true => some (if i.nearerBelow exponent then below else above)
  | true, false => some below
  | false, true => some above
  | false, false => none

/-- The first of the given grids, from coarse to fine, that meets the interval. -/
def Interval.firstGrid (i : Interval) : Nat → Int → Scientific
  | 0, exponent => (i.neighbours exponent).1
  | n + 1, exponent =>
    match i.nearest? exponent with
    | some d => d
    | none => i.firstGrid n (exponent - 1)

/-- The least `k ≤ bound` with `num < den · 10^k`. -/
def digitsAbove (num den : Nat) : Nat → Nat → Nat
  | 0, k => k
  | bound + 1, k => if num < den * Nat.pow 10 k then k else digitsAbove num den bound (k + 1)

/-- The greatest `k ≤ bound` with `num · 10^k < den`. -/
def zerosBelow (num den : Nat) : Nat → Nat → Nat
  | 0, k => k
  | bound + 1, k => if num * Nat.pow 10 (k + 1) < den then zerosBelow num den bound (k + 1) else k

/-- An exponent `k` with `10^(k-1) ≤ value < 10^k`, for values of double precision. -/
def Interval.magnitude (i : Interval) : Int :=
  let den := 4 * i.den
  if den ≤ i.value then Int.ofNat (digitsAbove i.value den 400 0)
  else -Int.ofNat (zerosBelow i.value den 400 0)

def Interval.shortest (i : Interval) : Scientific := i.firstGrid 18 i.magnitude

def Scientific.leading (d : Scientific) : Int :=
  Int.ofNat (toString d.digits).length - 1 + d.exponent

/-- The decimal written without an exponent, with at least one digit on each side of the point. -/
def Scientific.positional (d : Scientific) : String :=
  let digits := (toString d.digits).toList
  if 0 ≤ d.exponent then
    String.ofList (digits ++ List.replicate d.exponent.toNat '0' ++ ['.', '0'])
  else
    let places := (-d.exponent).toNat
    let padded := List.replicate (places + 1 - digits.length) '0' ++ digits
    let whole := padded.length - places
    String.ofList (padded.take whole ++ '.' :: padded.drop whole)

/-- The decimal written with one digit before the point and a signed exponent; the point is left out
if no digit follows it. -/
def Scientific.exponential (d : Scientific) : String :=
  let fraction :=
    match (toString d.digits).toList with
    | first :: [] => String.singleton first
    | first :: rest => String.ofList (first :: '.' :: rest)
    | [] => ""
  fraction ++ (if d.leading < 0 then "e-" else "e+") ++ toString d.leading.natAbs

/-- The decimal as text: without an exponent if its first digit stands between the fifth place after
the point and the sixteenth before it. -/
def Scientific.text (d : Scientific) : String :=
  if -5 ≤ d.leading ∧ d.leading ≤ 15 then d.positional else d.exponential

end FluxonAssist.Decimal
