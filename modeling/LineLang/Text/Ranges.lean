/-!
# Ranges of characters

A class of characters is given by the code points at which its runs begin and end, in ascending
order.
-/

namespace LineLang.Text

/-- Whether a number lies in one of the ranges. They ascend, so none that follows one which begins
too late is looked at. -/
def inRanges (n : Nat) : List (Nat × Nat) → Bool
  | [] => false
  | (first, last) :: rest => decide (first ≤ n) && (decide (n ≤ last) || inRanges n rest)

end LineLang.Text
