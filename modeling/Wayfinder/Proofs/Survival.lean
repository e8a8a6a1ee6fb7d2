/-
This file follows visits through the calls on a history. A call drops a visit or leaves it at some
position, and nothing else happens to it: the visit at the new position is the one that was
followed. Conversely every visit after a call was there before it, except the one that the call
makes, and that one is current. In a history that a trail stands for, every move that is possible
reaches a visit.
-/
import Wayfinder.Proofs.Trail

namespace Wayfinder.History

/-- Where a call leaves the visit at a position, unless it drops that visit. -/
def follow (history : History) (call : Call) (position : Nat) : Option Nat :=
  match call with
  | .push _ =>
    let reached := (history.visits.take (history.cursor + 1)).length
    let dropped := reached + 1 - history.capacity
    if dropped ≤ position ∧ position < reached then some (position - dropped) else none
  | .replace _ =>
    if position < history.visits.length ∧ position ≠ history.cursor then some position else none
  | .back => some position
  | .forward => some position

/-! ### What is followed stays the same -/

theorem visits_push (history : History) (visit : Visit) :
    (history.push visit).visits =
      (history.visits.take (history.cursor + 1) ++ [visit]).drop
        ((history.visits.take (history.cursor + 1)).length + 1 - history.capacity) := by
  rw [push, List.length_append, List.length_singleton]

theorem visits_back (history : History) (stamp : Stamp) :
    (history.call stamp .back).2.visits = history.visits := by
  rw [call, back?]
  cases history.canGoBack <;> rfl

theorem visits_forward (history : History) (stamp : Stamp) :
    (history.call stamp .forward).2.visits = history.visits := by
  rw [call, forward?]
  cases history.canGoForward <;> rfl

/-- The visit at the position that a call leaves a visit at is that visit. -/
theorem getElem?_of_follow {history : History} {call : Call} {position later : Nat}
    (followed : history.follow call position = some later) (stamp : Stamp) :
    (history.call stamp call).2.visits[later]? = history.visits[position]? := by
  cases call with
  | push location =>
    show (history.push ⟨stamp, location⟩).visits[later]? = _
    simp only [follow] at followed
    split at followed
    · next inside =>
      cases followed
      rw [visits_push, List.getElem?_drop, Nat.add_sub_cancel' inside.1,
        List.getElem?_append_left inside.2, List.getElem?_take_of_lt]
      exact Nat.lt_of_lt_of_le inside.2 (List.length_take_le _ _)
    · cases followed
  | replace location =>
    show (history.replace ⟨stamp, location⟩).visits[later]? = _
    simp only [follow] at followed
    split at followed
    · next inside =>
      cases followed
      have notEmpty : history.visits.isEmpty = false :=
        List.isEmpty_eq_false_iff.2 (List.ne_nil_of_length_pos (Nat.zero_lt_of_lt inside.1))
      rw [replace, if_neg (by rw [notEmpty]; exact Bool.false_ne_true)]
      exact List.getElem?_set_ne (Ne.symm inside.2)
    · cases followed
  | back =>
    cases followed
    rw [visits_back]
  | forward =>
    cases followed
    rw [visits_forward]

/-! ### What is there was followed or is new -/

theorem followed_or_new_push {history : History} (location : Location) {visit : Visit} {later : Nat}
    (inside : later < (history.push visit).visits.length) :
    (∃ position, history.follow (.push location) position = some later) ∨
      later = (history.push visit).cursor := by
  have cursor : (history.push visit).cursor = (history.push visit).visits.length - 1 := rfl
  rw [cursor]
  rw [visits_push, List.length_drop, List.length_append, List.length_singleton] at inside ⊢
  generalize reached : (history.visits.take (history.cursor + 1)).length = length at inside ⊢
  by_cases last : later = length + 1 - (length + 1 - history.capacity) - 1
  · exact Or.inr last
  · refine Or.inl ⟨later + (length + 1 - history.capacity), ?_⟩
    simp only [follow, reached]
    rw [if_pos (by omega), Nat.add_sub_cancel]

/-- A visit that is there after a call was there before it, or the call has made it and it is
current. -/
theorem followed_or_new {history : History} {stamp : Stamp} {call : Call} {later : Nat}
    (inside : later < (history.call stamp call).2.visits.length) :
    (∃ position, history.follow call position = some later) ∨
      call.makesVisit = true ∧ later = (history.call stamp call).2.cursor := by
  cases call with
  | push location =>
    exact (followed_or_new_push location inside).imp_right fun last => ⟨rfl, last⟩
  | replace location =>
    show _ ∨ _ ∧ later = (history.replace _).cursor
    have inside : later < (history.replace ⟨stamp, location⟩).visits.length := inside
    rw [replace] at inside ⊢
    cases empty : history.visits.isEmpty with
    | true =>
      rw [empty, if_pos rfl] at inside
      rw [if_pos rfl]
      rcases followed_or_new_push location inside with ⟨position, followed⟩ | last
      · simp [follow, List.isEmpty_iff.1 empty] at followed
      · exact Or.inr ⟨rfl, last⟩
    | false =>
      rw [empty, if_neg Bool.false_ne_true] at inside
      rw [if_neg Bool.false_ne_true]
      by_cases here : later = history.cursor
      · exact Or.inr ⟨rfl, here⟩
      · rw [List.length_set] at inside
        exact Or.inl ⟨later, if_pos ⟨inside, here⟩⟩
  | back => exact Or.inl ⟨later, rfl⟩
  | forward => exact Or.inl ⟨later, rfl⟩

/-! ### Histories that trails stand for -/

/-- A history that a trail stands for, with room for at least one visit. -/
def IsTrail (history : History) : Prop :=
  ∃ room trail?, 0 < room ∧ history = ofTrail room trail?

theorem ofCapacity_isTrail (capacity : Nat) : (ofCapacity capacity).IsTrail :=
  ⟨max 1 capacity, none, Nat.lt_of_lt_of_le Nat.zero_lt_one (Nat.le_max_left 1 capacity), rfl⟩

theorem call_isTrail {history : History} (trail : history.IsTrail) (stamp : Stamp) (call : Call) :
    (history.call stamp call).2.IsTrail := by
  obtain ⟨room, trail?, positive, rfl⟩ := trail
  exact ⟨room, _, positive, congrArg Prod.snd (call_ofTrail positive trail? stamp call)⟩

/-- A call that makes a visit makes it current. -/
theorem current?_of_makesVisit {history : History} (trail : history.IsTrail) (stamp : Stamp)
    {call : Call} (makes : call.makesVisit = true) :
    (history.call stamp call).2.current? = (history.call stamp call).1 := by
  obtain ⟨room, trail?, positive, rfl⟩ := trail
  rw [call_ofTrail positive, current?_ofTrail]
  cases call with
  | push location => rfl
  | replace location => rfl
  | back => cases makes
  | forward => cases makes

theorem exists_current?_of_back? {history moved : History} (trail : history.IsTrail)
    (back : history.back? = some moved) : ∃ visit, moved.current? = some visit := by
  obtain ⟨room, trail?, _, rfl⟩ := trail
  rw [back?_ofTrail] at back
  obtain ⟨next, _, rfl⟩ := Option.map_eq_some_iff.1 back
  exact ⟨next.current, current?_ofTrail room (some next)⟩

theorem exists_current?_of_forward? {history moved : History} (trail : history.IsTrail)
    (forward : history.forward? = some moved) : ∃ visit, moved.current? = some visit := by
  obtain ⟨room, trail?, _, rfl⟩ := trail
  rw [forward?_ofTrail] at forward
  obtain ⟨next, _, rfl⟩ := Option.map_eq_some_iff.1 forward
  exact ⟨next.current, current?_ofTrail room (some next)⟩

end Wayfinder.History
