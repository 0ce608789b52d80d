/-!
# Character classes given by ranges

A class of characters is listed as closed ranges of code points in ascending order. Membership walks
the list and stops at the first range that starts above the code point.
-/
set_option autoImplicit false
namespace FluxonAssist.Text

/-- Whether `n` lies in one of the ascending closed ranges. -/
def inRanges (n : Nat) : List (Nat × Nat) → Bool
  | [] => false
  | (low, high) :: rest => decide (low ≤ n) && (decide (n ≤ high) || inRanges n rest)

end FluxonAssist.Text
