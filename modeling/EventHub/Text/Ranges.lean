/-!
# Sets of code points as ascending boundaries

A class of characters is written as the ascending list of the code points where membership
changes: the first enters the class, the second leaves it, and so on.
-/

namespace EventHub.Text

/-- Membership changes at every boundary that is not above the code point. -/
def Ranges.contains (bounds : List Nat) (code : Nat) : Bool :=
  (bounds.takeWhile (· ≤ code)).length % 2 == 1

end EventHub.Text
