import GroupedReport.Binary64.Basic

/-!
# The order of doubles

Doubles are ordered by the numbers they stand for. A double that is not a number is not ordered.
-/

namespace GroupedReport.Binary64

def compare? (left right : Float) : Option Ordering :=
  if left < right then some .lt
  else if right < left then some .gt
  else if left == right then some .eq
  else none

end GroupedReport.Binary64
