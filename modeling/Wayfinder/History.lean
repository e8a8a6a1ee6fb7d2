/-
This file defines the history of a session: the visits that can be returned to, oldest first,
with a cursor at the current one. A new visit discards the visits after the cursor and, when the
history is full, the oldest ones. A history has room for at least one visit.
-/
import Wayfinder.Location
import Wayfinder.Stamp

namespace Wayfinder

/-- A visit to a location. -/
structure Visit where
  stamp : Stamp
  location : Location
  deriving DecidableEq, Repr, Inhabited

/-- The visits of a session. The cursor points at the current one, if there is any. -/
structure History where
  visits : List Visit
  cursor : Nat
  capacity : Nat
  deriving DecidableEq, Repr

namespace History

/-- The history without visits, with room for a number of them but at least for one. -/
def ofCapacity (capacity : Nat) : History where
  visits := []
  cursor := 0
  capacity := max 1 capacity

/-- The current visit. -/
def current? (history : History) : Option Visit :=
  history.visits[history.cursor]?

/-- Whether there is an older visit than the current one. -/
def canGoBack (history : History) : Bool :=
  !history.visits.isEmpty && 0 < history.cursor

/-- Whether there is a newer visit than the current one. -/
def canGoForward (history : History) : Bool :=
  history.cursor + 1 < history.visits.length

/-- Add a visit after the current one and make it current. -/
def push (history : History) (visit : Visit) : History :=
  let visits := history.visits.take (history.cursor + 1) ++ [visit]
  let kept := visits.drop (visits.length - history.capacity)
  { history with visits := kept, cursor := kept.length - 1 }

/-- Put a visit in the place of the current one; without a current one, add it. -/
def replace (history : History) (visit : Visit) : History :=
  if history.visits.isEmpty then history.push visit
  else { history with visits := history.visits.set history.cursor visit }

/-- Make the next older visit current. -/
def back? (history : History) : Option History :=
  if history.canGoBack then some { history with cursor := history.cursor - 1 } else none

/-- Make the next newer visit current. -/
def forward? (history : History) : Option History :=
  if history.canGoForward then some { history with cursor := history.cursor + 1 } else none

/-- The number of visits. -/
def size (history : History) : Nat :=
  history.visits.length

/-- Whether there are no visits. -/
def isEmpty (history : History) : Bool :=
  history.visits.isEmpty

/-! ### Calls -/

/-- A call that can change a history. -/
inductive Call where
  | push (location : Location)
  | replace (location : Location)
  | back
  | forward
  deriving DecidableEq, Repr

/-- What a call returns, with the history after it: the visit that became current, or nothing
when the call had no effect. The stamp is used if the call makes a visit. -/
def call (history : History) (stamp : Stamp) : Call → Option Visit × History
  | .push location => (some ⟨stamp, location⟩, history.push ⟨stamp, location⟩)
  | .replace location => (some ⟨stamp, location⟩, history.replace ⟨stamp, location⟩)
  | .back =>
    match history.back? with
    | some moved => (moved.current?, moved)
    | none => (none, history)
  | .forward =>
    match history.forward? with
    | some moved => (moved.current?, moved)
    | none => (none, history)

end History

end Wayfinder
