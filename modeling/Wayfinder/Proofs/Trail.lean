/-
This file proves that a history with a cursor is a trail: the older visits, the current one and
the newer ones. On a trail the calls are simple. A new visit puts the current one at the end of
the older ones, of which the last few are kept, and forgets the newer ones; going back or forward
moves the current visit over to the other side. Whatever is called on a history, it returns what
the same calls on a trail return, and its visits and its cursor are those of the trail.
-/
import Mathlib.Data.List.DropRight
import Wayfinder.History

namespace Wayfinder

/-- A trail of visits: the older ones, oldest first, the current one, and the newer ones, oldest
first. -/
structure Trail where
  older : List Visit
  current : Visit
  newer : List Visit
  deriving DecidableEq, Repr

namespace Trail

/-- All visits of a trail, oldest first. -/
def visits (trail : Trail) : List Visit :=
  trail.older ++ [trail.current] ++ trail.newer

/-- The trail after a new visit, with room for a number of visits. The newer ones are forgotten,
and so are the oldest ones for which there is no room. -/
def push (room : Nat) (visit : Visit) : Option Trail → Trail
  | none => ⟨[], visit, []⟩
  | some trail => ⟨(trail.older ++ [trail.current]).rtake (room - 1), visit, []⟩

/-- The trail with another visit in the place of the current one. -/
def replace (room : Nat) (visit : Visit) : Option Trail → Trail
  | none => push room visit none
  | some trail => { trail with current := visit }

/-- The trail with the last of the older visits as the current one. -/
def back? (trail : Trail) : Option Trail :=
  match trail.older.getLast? with
  | none => none
  | some previous => some ⟨trail.older.dropLast, previous, trail.current :: trail.newer⟩

/-- The trail with the first of the newer visits as the current one. -/
def forward? (trail : Trail) : Option Trail :=
  match trail.newer with
  | [] => none
  | next :: rest => some ⟨trail.older ++ [trail.current], next, rest⟩

/-- The trail that a call leads to, if it has an effect. There is no trail before the first
visit. -/
def after? (room : Nat) (trail? : Option Trail) (stamp : Stamp) : History.Call → Option Trail
  | .push location => some (push room ⟨stamp, location⟩ trail?)
  | .replace location => some (replace room ⟨stamp, location⟩ trail?)
  | .back => trail?.bind back?
  | .forward => trail?.bind forward?

/-- What a call returns, with the trail after it: the visit that became current, or nothing when
the call has no effect. -/
def call (room : Nat) (trail? : Option Trail) (stamp : Stamp) (call : History.Call) :
    Option Visit × Option Trail :=
  match after? room trail? stamp call with
  | some next => (some next.current, some next)
  | none => (none, trail?)

/-- What a sequence of calls returns, with the trail after it. -/
def run (room : Nat) (trail? : Option Trail) :
    List (Stamp × History.Call) → List (Option Visit) × Option Trail
  | [] => ([], trail?)
  | (stamp, call) :: rest =>
    let (result, next) := Trail.call room trail? stamp call
    let (results, last) := run room next rest
    (result :: results, last)

end Trail

namespace History

/-- What a sequence of calls returns, with the history after it. -/
def run (history : History) : List (Stamp × Call) → List (Option Visit) × History
  | [] => ([], history)
  | (stamp, call) :: rest =>
    let (result, next) := history.call stamp call
    let (results, last) := next.run rest
    (result :: results, last)

/-- Whether a call makes a visit. -/
def Call.makesVisit : Call → Bool
  | push _ | replace _ => true
  | back | forward => false

/-- The history that a trail stands for. -/
def ofTrail (room : Nat) : Option Trail → History
  | none => ⟨[], 0, room⟩
  | some trail => ⟨trail.visits, trail.older.length, room⟩

/-! ### Reading -/

theorem current?_ofTrail (room : Nat) (trail? : Option Trail) :
    (ofTrail room trail?).current? = trail?.map Trail.current := by
  cases trail? with
  | none => rfl
  | some trail => simp [ofTrail, current?, Trail.visits]

theorem canGoBack_ofTrail (room : Nat) (trail : Trail) :
    (ofTrail room (some trail)).canGoBack = !trail.older.isEmpty := by
  cases older : trail.older <;> simp [ofTrail, canGoBack, Trail.visits, older]

theorem canGoForward_ofTrail (room : Nat) (trail : Trail) :
    (ofTrail room (some trail)).canGoForward = !trail.newer.isEmpty := by
  cases newer : trail.newer <;> simp [ofTrail, canGoForward, Trail.visits, newer]

/-! ### Calling -/

theorem push_ofTrail {room : Nat} (positive : 0 < room) (visit : Visit) (trail? : Option Trail) :
    (ofTrail room trail?).push visit = ofTrail room (some (Trail.push room visit trail?)) := by
  obtain ⟨spare, rfl⟩ := Nat.exists_eq_add_one_of_ne_zero positive.ne'
  cases trail? with
  | none => simp [ofTrail, push, Trail.push, Trail.visits]
  | some trail =>
    have reached : trail.visits.take (trail.older.length + 1) = trail.older ++ [trail.current] :=
      List.take_left' (List.length_append)
    have kept : (trail.older ++ [trail.current] ++ [visit]).rtake (spare + 1) =
        (trail.older ++ [trail.current]).rtake spare ++ [visit] :=
      List.rtake_concat_succ _ _ _
    rw [List.rtake] at kept
    rw [ofTrail, push]
    simp only [reached, kept]
    simp [ofTrail, Trail.push, Trail.visits]

theorem replace_ofTrail {room : Nat} (positive : 0 < room) (visit : Visit)
    (trail? : Option Trail) :
    (ofTrail room trail?).replace visit =
      ofTrail room (some (Trail.replace room visit trail?)) := by
  cases trail? with
  | none => exact push_ofTrail positive visit none
  | some trail =>
    have notEmpty : trail.visits.isEmpty = false := by simp [Trail.visits]
    have swapped : trail.visits.set trail.older.length visit =
        trail.older ++ [visit] ++ trail.newer := by simp [Trail.visits]
    rw [replace, ofTrail, if_neg (by rw [notEmpty]; exact Bool.false_ne_true)]
    simp only [swapped]
    rfl

theorem back?_ofTrail (room : Nat) (trail? : Option Trail) :
    (ofTrail room trail?).back? = (trail?.bind Trail.back?).map fun moved =>
      ofTrail room (some moved) := by
  cases trail? with
  | none => rfl
  | some trail =>
    rw [back?, canGoBack_ofTrail, Option.bind_some, Trail.back?]
    rcases List.eq_nil_or_concat trail.older with older | ⟨rest, previous, older⟩
    · simp [older]
    · simp [older, ofTrail, Trail.visits]

theorem forward?_ofTrail (room : Nat) (trail? : Option Trail) :
    (ofTrail room trail?).forward? = (trail?.bind Trail.forward?).map fun moved =>
      ofTrail room (some moved) := by
  cases trail? with
  | none => rfl
  | some trail =>
    rw [forward?, canGoForward_ofTrail, Option.bind_some, Trail.forward?]
    cases newer : trail.newer with
    | nil => rfl
    | cons next rest => simp [newer, ofTrail, Trail.visits]

/-- A call on the history of a trail is the call on the trail. -/
theorem call_ofTrail {room : Nat} (positive : 0 < room) (trail? : Option Trail) (stamp : Stamp)
    (call : Call) :
    (ofTrail room trail?).call stamp call =
      ((Trail.call room trail? stamp call).1,
        ofTrail room (Trail.call room trail? stamp call).2) := by
  cases call with
  | push location =>
    rw [History.call, push_ofTrail positive]
    cases trail? <;> rfl
  | replace location =>
    rw [History.call, replace_ofTrail positive]
    cases trail? <;> rfl
  | back =>
    rw [History.call, back?_ofTrail, Trail.call, Trail.after?]
    cases trail?.bind Trail.back? with
    | none => rfl
    | some moved => simp only [Option.map_some, current?_ofTrail]
  | forward =>
    rw [History.call, forward?_ofTrail, Trail.call, Trail.after?]
    cases trail?.bind Trail.forward? with
    | none => rfl
    | some moved => simp only [Option.map_some, current?_ofTrail]

/-- Calls on the history of a trail are the calls on the trail. -/
theorem run_ofTrail {room : Nat} (positive : 0 < room) (trail? : Option Trail)
    (calls : List (Stamp × Call)) :
    (ofTrail room trail?).run calls =
      ((Trail.run room trail? calls).1, ofTrail room (Trail.run room trail? calls).2) := by
  induction calls generalizing trail? with
  | nil => rfl
  | cons entry rest inductionHypothesis =>
    rw [run, Trail.run, call_ofTrail positive]
    simp only [inductionHypothesis]

end History

namespace Trail

/-! ### Room -/

/-- A trail fits when there is room for all its visits. -/
def Fits (room : Nat) (trail? : Option Trail) : Prop :=
  ∀ trail, trail? = some trail → trail.visits.length ≤ room

theorem none_fits (room : Nat) : Fits room none := by
  rintro trail ⟨⟩

theorem length_visits (trail : Trail) :
    trail.visits.length = trail.older.length + trail.newer.length + 1 := by
  simp only [visits, List.length_append, List.length_singleton]
  omega

theorem push_length_le {room : Nat} (positive : 0 < room) (visit : Visit)
    (trail? : Option Trail) : (push room visit trail?).visits.length ≤ room := by
  cases trail? with
  | none => exact positive
  | some trail =>
    rw [length_visits, push, List.rtake, List.length_drop, List.length_nil]
    omega

theorem length_visits_back? {trail moved : Trail} (back : trail.back? = some moved) :
    moved.visits.length = trail.visits.length := by
  unfold back? at back
  split at back
  · cases back
  · next previous last =>
    cases back
    have notEmpty : trail.older.length ≠ 0 := fun empty => by
      rw [List.length_eq_zero_iff.1 empty] at last
      cases last
    rw [length_visits, length_visits, List.length_dropLast, List.length_cons]
    omega

theorem length_visits_forward? {trail moved : Trail} (forward : trail.forward? = some moved) :
    moved.visits.length = trail.visits.length := by
  unfold forward? at forward
  split at forward
  · cases forward
  · next next rest newer =>
    cases forward
    simp only [length_visits, newer, List.length_append, List.length_cons, List.length_nil]
    omega

theorem after?_fits {room : Nat} (positive : 0 < room) {trail? : Option Trail}
    (fits : Fits room trail?) (stamp : Stamp) (call : History.Call) :
    Fits room (after? room trail? stamp call) := by
  intro next reached
  cases call with
  | push location =>
    cases reached
    exact push_length_le positive _ trail?
  | replace location =>
    cases reached
    cases trail? with
    | none => exact push_length_le positive _ none
    | some trail =>
      have bound := fits trail rfl
      rw [length_visits] at bound ⊢
      exact bound
  | back =>
    obtain ⟨trail, rfl, back⟩ := Option.bind_eq_some_iff.1 reached
    exact (length_visits_back? back).trans_le (fits trail rfl)
  | forward =>
    obtain ⟨trail, rfl, forward⟩ := Option.bind_eq_some_iff.1 reached
    exact (length_visits_forward? forward).trans_le (fits trail rfl)

theorem call_fits {room : Nat} (positive : 0 < room) {trail? : Option Trail}
    (fits : Fits room trail?) (stamp : Stamp) (call : History.Call) :
    Fits room (Trail.call room trail? stamp call).2 := by
  have afterFits := after?_fits positive fits stamp call
  rw [Trail.call]
  cases reached : after? room trail? stamp call with
  | none => exact fits
  | some next => rwa [reached] at afterFits

theorem run_fits {room : Nat} (positive : 0 < room) {trail? : Option Trail}
    (fits : Fits room trail?) (calls : List (Stamp × History.Call)) :
    Fits room (Trail.run room trail? calls).2 := by
  induction calls generalizing trail? with
  | nil => exact fits
  | cons entry rest inductionHypothesis =>
    exact inductionHypothesis (call_fits positive fits entry.1 entry.2)

/-! ### The first visit -/

/-- There is no trail after a call exactly when there was none before and the call makes no
visit. -/
theorem call_eq_none_iff (room : Nat) (trail? : Option Trail) (stamp : Stamp)
    (call : History.Call) :
    (Trail.call room trail? stamp call).2 = none ↔ trail? = none ∧ call.makesVisit = false := by
  cases trail? with
  | none => cases call <;> simp [Trail.call, after?, History.Call.makesVisit]
  | some trail =>
    rw [Trail.call]
    cases after? room (some trail) stamp call <;> simp

theorem run_eq_none_iff (room : Nat) (trail? : Option Trail)
    (calls : List (Stamp × History.Call)) :
    (Trail.run room trail? calls).2 = none ↔
      trail? = none ∧ ∀ entry ∈ calls, entry.2.makesVisit = false := by
  induction calls generalizing trail? with
  | nil => simp [Trail.run]
  | cons entry rest inductionHypothesis =>
    rw [Trail.run, List.forall_mem_cons, ← and_assoc, ← call_eq_none_iff room trail? entry.1]
    exact inductionHypothesis _

end Trail

namespace History

/-! ### Whole sequences of calls -/

/-- A history shows a trail, or the lack of one, within its room. -/
structure Shows (history : History) (room : Nat) (trail? : Option Trail) : Prop where
  state : history = ofTrail room trail?
  current : history.current? = trail?.map Trail.current
  older : history.canGoBack = true ↔ ∃ trail, trail? = some trail ∧ trail.older ≠ []
  newer : history.canGoForward = true ↔ ∃ trail, trail? = some trail ∧ trail.newer ≠ []
  size : history.size = trail?.elim 0 fun trail => trail.visits.length
  bounded : history.size ≤ room
  inRange : history.visits ≠ [] → history.cursor < history.visits.length

theorem ofTrail_shows {room : Nat} {trail? : Option Trail} (fits : Trail.Fits room trail?) :
    (ofTrail room trail?).Shows room trail? := by
  cases trail? with
  | none =>
    refine ⟨rfl, rfl, ?_, ?_, rfl, Nat.zero_le room, fun notEmpty => absurd rfl notEmpty⟩
    · simp [ofTrail, canGoBack]
    · simp [ofTrail, canGoForward]
  | some trail =>
    refine ⟨rfl, current?_ofTrail room _, ?_, ?_, rfl, fits trail rfl, fun _ => ?_⟩
    · simp [canGoBack_ofTrail]
    · simp [canGoForward_ofTrail]
    · show trail.older.length < trail.visits.length
      rw [Trail.length_visits]
      omega

/-- A history is a trail with bounded room. Whatever is called on a new history, it returns what
the same calls return on a trail, and then shows that trail; there is none exactly as long as no
call has made a visit. -/
theorem run_shows_trail (capacity : Nat) (calls : List (Stamp × Call)) :
    let room := max 1 capacity
    let history := ((ofCapacity capacity).run calls).2
    let trail? := (Trail.run room none calls).2
    ((ofCapacity capacity).run calls).1 = (Trail.run room none calls).1 ∧
      history.Shows room trail? ∧ (trail? = none ↔ history.isEmpty = true) ∧
      (history.isEmpty = true ↔ ∀ entry ∈ calls, entry.2.makesVisit = false) := by
  intro room history trail?
  have positive : 0 < room := Nat.lt_of_lt_of_le Nat.zero_lt_one (Nat.le_max_left 1 capacity)
  have refined : (ofCapacity capacity).run calls =
      ((Trail.run room none calls).1, ofTrail room trail?) := run_ofTrail positive none calls
  have state : history = ofTrail room trail? := congrArg Prod.snd refined
  have empty : trail? = none ↔ history.isEmpty = true := by
    rw [state]
    cases trail? with
    | none => simp [ofTrail, isEmpty]
    | some trail => simp [ofTrail, isEmpty, Trail.visits]
  have fits : Trail.Fits room trail? := Trail.run_fits positive (Trail.none_fits room) calls
  refine ⟨congrArg Prod.fst refined, state ▸ ofTrail_shows fits, empty, ?_⟩
  rw [← empty, Trail.run_eq_none_iff, and_iff_right rfl]

end History

end Wayfinder
