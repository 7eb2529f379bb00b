/-! Sets of characters as sorted ranges of code points. -/
namespace ScriptBench.Text

/-- Whether a code point lies in one of the ranges, which are sorted. -/
def inRanges (n : Nat) : List (Nat × Nat) → Bool
  | [] => false
  | (low, high) :: more => if n < low then false else n ≤ high || inRanges n more

end ScriptBench.Text
