/-! # Sets of characters as intervals

Properties of characters are kept as tables of closed intervals of code points, in increasing
order.  `Intervals.start?` finds the interval around a code point, `Intervals.covers` asks whether
there is one.
-/

namespace XmlSettings.Text

/-- Closed intervals of code points, in increasing order and apart from one another. -/
abbrev Intervals := List (Nat × Nat)

namespace Intervals

/-- The first code point of the interval around `n`.  The search ends at the first interval that
    lies beyond `n`. -/
def start? : Intervals → Nat → Option Nat
  | [], _ => none
  | (low, high) :: more, n =>
    if n < low then none else if n ≤ high then some low else start? more n

def covers (table : Intervals) (n : Nat) : Bool :=
  (start? table n).isSome

end Intervals

end XmlSettings.Text
