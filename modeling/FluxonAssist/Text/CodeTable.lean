import FluxonAssist.Text.Hexadecimal
import FluxonAssist.Text.Pieces

/-!
# Tables of code points

A table gives the image of some code points. It is written as text, row after row with a space
between them: `first-last/step=image`, all numbers hexadecimal. The last code point is left out if
it is the first, and the step if it is one. The numbers of an image are joined by plus signs, and a
row without an image has the empty one.
-/
set_option autoImplicit false
namespace FluxonAssist.Text

/-- A row: the code points from `first` to `last` in steps, and the image of the first. -/
structure CodeRow where
  first : Nat
  last : Nat
  step : Nat
  image : List Nat
  deriving DecidableEq, Repr

def CodeRow.covers (row : CodeRow) (code : Nat) : Bool :=
  decide (row.first ≤ code) && decide (code ≤ row.last) && (code - row.first) % row.step == 0

def CodeRow.ofText (text : List Char) : CodeRow :=
  let (source, image) := splitMark '=' text
  let (range, step) := splitMark '/' source
  let (first, last) := splitMark '-' range
  { first := hexValue first
    last := hexValue (last.getD first)
    step := (step.map hexValue).getD 1
    image := (image.map fun codes => (pieces (fun c => c == '+') codes).map hexValue).getD [] }

def codeRows (line : String) : List CodeRow :=
  ((pieces (fun c => c == ' ') line.toList).filter fun text => !text.isEmpty).map CodeRow.ofText

def findRow? (rows : List CodeRow) (code : Nat) : Option CodeRow :=
  rows.find? fun row => row.covers code

end FluxonAssist.Text
