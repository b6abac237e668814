/-!
# Sets of characters given by ranges
-/

namespace SpotCheck.Text

/-- A set of code points as closed ranges in ascending order. -/
abbrev Ranges := List (Nat × Nat)

/-- Searches the ranges up to the first that starts above the code point. -/
def Ranges.contains : Ranges → Nat → Bool
  | [], _ => false
  | (first, last) :: rest, point =>
    if point < first then false else point ≤ last || Ranges.contains rest point

end SpotCheck.Text
