/-! Sets of characters given by ranges of code points, and case mappings given by rows of them. -/
namespace Initialism.Text

/-- Whether the code point lies in one of the ranges, both ends included. Ranges stand in ascending
order, so the first that starts past the code point ends the search. -/
def inRanges : List (Nat × Nat) → Nat → Bool
  | [], _ => false
  | (lo, hi) :: rs, n => if n < lo then false else n ≤ hi || inRanges rs n

/-- The code points `first`, `first + step`, … up to `last`; each is mapped to the one that
stands as far from `image` as it stands from `first`. -/
structure CaseRow where
  first : Nat
  last : Nat
  step : Nat
  image : Nat

namespace CaseRow

def image? (r : CaseRow) (n : Nat) : Option Nat :=
  if r.first ≤ n && n ≤ r.last && (n - r.first) % r.step == 0 then some (r.image + (n - r.first))
  else none

end CaseRow
end Initialism.Text
