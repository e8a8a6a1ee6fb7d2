/-
This file defines the stamps that tell one visit from another: an identifier and a point in
time. Where stamps come from is left to whoever runs the library, so that everything computed
from a given supply of stamps is a function of that supply.
-/
import Wayfinder.Uuid
import Wayfinder.Timestamp

namespace Wayfinder

/-- What is drawn afresh for each visit. -/
structure Stamp where
  identifier : Uuid
  time : Timestamp
  deriving DecidableEq, Repr, Inhabited

/-- An endless supply of stamps, of which the first few have been drawn. -/
structure StampSupply where
  stamp : Nat → Stamp
  drawn : Nat := 0

namespace StampSupply

/-- The stamp that is drawn next. -/
def next (supply : StampSupply) : Stamp :=
  supply.stamp supply.drawn

/-- The supply after one more stamp is drawn. -/
def advance (supply : StampSupply) : StampSupply :=
  { supply with drawn := supply.drawn + 1 }

end StampSupply

end Wayfinder
