/-
This file proves that visits keep their identity. Every new visit is stamped with an identifier,
and the calls that make visits draw these identifiers one after the other. A call adds at most the
visit that it makes, and otherwise only drops some: so the identifiers in a history are always some
of those that it began with or that were drawn since, and none more often. When no identifier is
drawn twice, it follows that no two visits of a history share one, and that an identifier that has
left the history is never seen again.
-/
import Mathlib.Data.List.Perm.Subperm
import Wayfinder.Proofs.Survival

namespace Wayfinder

namespace Trail

theorem current_push (room : Nat) (visit : Visit) (trail? : Option Trail) :
    (push room visit trail?).current = visit := by
  cases trail? <;> rfl

theorem current_replace (room : Nat) (visit : Visit) (trail? : Option Trail) :
    (replace room visit trail?).current = visit := by
  cases trail? <;> rfl

end Trail

namespace History

/-- The identifiers of the visits of a history, oldest first. -/
def identifiers (history : History) : List Uuid :=
  history.visits.map (·.stamp.identifier)

/-- The identifiers that a sequence of calls draws, one for each call that makes a visit. -/
def drawn (calls : List (Stamp × Call)) : List Uuid :=
  (calls.filter (·.2.makesVisit)).map (·.1.identifier)

/-- The history after the first few of a sequence of calls. -/
def after (history : History) (calls : List (Stamp × Call)) (count : Nat) : History :=
  (history.run (calls.take count)).2

/-- A visit is added to a history: afterwards it is the current one, and all other visits were there
before, in the same order. -/
structure Adds (history : History) (visit : Visit) (next : History) : Prop where
  current : next.current? = some visit
  visits : ∃ older newer, next.visits = older ++ visit :: newer ∧
    (older ++ newer).Sublist history.visits

/-! ### One call -/

theorem adds_push (room : Nat) (trail? : Option Trail) (visit : Visit) :
    (ofTrail room trail?).Adds visit (ofTrail room (some (Trail.push room visit trail?))) := by
  refine ⟨by rw [current?_ofTrail, Option.map_some, Trail.current_push], ?_⟩
  cases trail? with
  | none => exact ⟨[], [], rfl, List.nil_sublist _⟩
  | some trail =>
    refine ⟨(trail.older ++ [trail.current]).rtake (room - 1), [], ?_, ?_⟩
    · simp [ofTrail, Trail.visits, Trail.push]
    · rw [List.append_nil]
      exact (List.drop_sublist _ _).trans (List.sublist_append_left _ trail.newer)

theorem adds_replace (room : Nat) (trail? : Option Trail) (visit : Visit) :
    (ofTrail room trail?).Adds visit (ofTrail room (some (Trail.replace room visit trail?))) := by
  cases trail? with
  | none => exact adds_push room none visit
  | some trail =>
    refine ⟨current?_ofTrail room _, trail.older, trail.newer, ?_, ?_⟩
    · simp [ofTrail, Trail.visits, Trail.replace]
    · exact (List.sublist_append_left trail.older [trail.current]).append_right trail.newer

/-- What a call returns is the visit that is current afterwards. -/
theorem current?_of_call {history : History} (trail : history.IsTrail) {stamp : Stamp}
    {call : Call} {visit : Visit} (returned : (history.call stamp call).1 = some visit) :
    (history.call stamp call).2.current? = some visit := by
  obtain ⟨room, trail?, positive, rfl⟩ := trail
  rw [call_ofTrail positive, Trail.call] at returned ⊢
  rw [current?_ofTrail]
  cases reached : Trail.after? room trail? stamp call with
  | none =>
    rw [reached] at returned
    cases returned
  | some next =>
    rw [reached] at returned
    exact returned

/-- A call that makes a visit stamps it, returns it and adds it to the history. -/
theorem call_adds {history : History} (trail : history.IsTrail) (stamp : Stamp) {call : Call}
    (makes : call.makesVisit = true) :
    ∃ visit, visit.stamp = stamp ∧ (history.call stamp call).1 = some visit ∧
      history.Adds visit (history.call stamp call).2 := by
  obtain ⟨room, trail?, positive, rfl⟩ := trail
  rw [call_ofTrail positive]
  cases call with
  | push location =>
    exact ⟨⟨stamp, location⟩, rfl, congrArg some (Trail.current_push room _ trail?),
      adds_push room trail? _⟩
  | replace location =>
    exact ⟨⟨stamp, location⟩, rfl, congrArg some (Trail.current_replace room _ trail?),
      adds_replace room trail? _⟩
  | back => cases makes
  | forward => cases makes

theorem mem_identifiers_of_current? {history : History} {visit : Visit}
    (current : history.current? = some visit) : visit.stamp.identifier ∈ history.identifiers :=
  List.mem_map_of_mem (List.mem_of_getElem? current)

/-- A call that makes no visit keeps all visits. -/
theorem visits_of_not_makesVisit {call : Call} (makes : call.makesVisit = false)
    (history : History) (stamp : Stamp) :
    (history.call stamp call).2.visits = history.visits := by
  cases call with
  | push location => cases makes
  | replace location => cases makes
  | back => exact visits_back history stamp
  | forward => exact visits_forward history stamp

/-- The identifiers after a call are some of those before it and of those that it draws. -/
theorem identifiers_call_subperm {history : History} (trail : history.IsTrail) (stamp : Stamp)
    (call : Call) :
    (history.call stamp call).2.identifiers.Subperm
      (history.identifiers ++ drawn [(stamp, call)]) := by
  cases makes : call.makesVisit with
  | false =>
    rw [identifiers, visits_of_not_makesVisit makes]
    exact (List.sublist_append_left _ _).subperm
  | true =>
    obtain ⟨visit, rfl, _, _, older, newer, visits, others⟩ := call_adds trail stamp makes
    have draws : drawn [(visit.stamp, call)] = [visit.stamp.identifier] := by
      simp [drawn, makes]
    have rest : ((older ++ newer).map (·.stamp.identifier)).Sublist history.identifiers :=
      others.map _
    rw [identifiers, visits, draws]
    refine (List.perm_middle.map _).subperm.trans ?_
    exact (rest.cons_cons _).subperm.trans (List.perm_append_singleton _ _).symm.subperm

/-! ### Sequences of calls -/

theorem drawn_append (first second : List (Stamp × Call)) :
    drawn (first ++ second) = drawn first ++ drawn second := by
  rw [drawn, List.filter_append, List.map_append, drawn, drawn]

theorem drawn_sublist {first second : List (Stamp × Call)} (part : first.Sublist second) :
    (drawn first).Sublist (drawn second) :=
  (part.filter _).map _

theorem run_isTrail {history : History} (trail : history.IsTrail) (calls : List (Stamp × Call)) :
    (history.run calls).2.IsTrail := by
  induction calls generalizing history with
  | nil => exact trail
  | cons entry rest inductionHypothesis =>
    exact inductionHypothesis (call_isTrail trail entry.1 entry.2)

/-- The identifiers after calls are some of those before them and of those that they draw. -/
theorem identifiers_run_subperm {history : History} (trail : history.IsTrail)
    (calls : List (Stamp × Call)) :
    (history.run calls).2.identifiers.Subperm (history.identifiers ++ drawn calls) := by
  induction calls generalizing history with
  | nil => exact (List.sublist_append_left _ _).subperm
  | cons entry rest inductionHypothesis =>
    obtain ⟨stamp, call⟩ := entry
    have first := identifiers_call_subperm trail stamp call
    have others := inductionHypothesis (call_isTrail trail stamp call)
    rw [← List.singleton_append, drawn_append, ← List.append_assoc]
    exact others.trans ((List.subperm_append_right _).2 first)

theorem run_append_snd (history : History) (first second : List (Stamp × Call)) :
    (history.run (first ++ second)).2 = ((history.run first).2.run second).2 := by
  induction first generalizing history with
  | nil => rfl
  | cons entry rest inductionHypothesis =>
    exact inductionHypothesis (history.call entry.1 entry.2).2

theorem after_add (history : History) (calls : List (Stamp × Call)) (count more : Nat) :
    history.after calls (count + more) =
      (history.after calls count).after (calls.drop count) more := by
  rw [after, List.take_add, run_append_snd]
  rfl

/-- The call at a place returns what it returns for the history that the calls in front of it lead
to, and leads to the next one. -/
theorem run_at {calls : List (Stamp × Call)} {place : Nat} {stamp : Stamp} {call : Call}
    (here : calls[place]? = some (stamp, call)) (history : History) :
    (history.run calls).1[place]? = some ((history.after calls place).call stamp call).1 ∧
      history.after calls (place + 1) = ((history.after calls place).call stamp call).2 := by
  induction calls generalizing history place with
  | nil => cases here
  | cons entry rest inductionHypothesis =>
    cases place with
    | zero =>
      cases here
      exact ⟨rfl, rfl⟩
    | succ place => exact inductionHypothesis here (history.call entry.1 entry.2).2

theorem length_run (history : History) (calls : List (Stamp × Call)) :
    (history.run calls).1.length = calls.length := by
  induction calls generalizing history with
  | nil => rfl
  | cons entry rest inductionHypothesis =>
    exact congrArg Nat.succ (inductionHypothesis (history.call entry.1 entry.2).2)

/-- A visit that a call returns is there after that call. -/
theorem mem_identifiers_of_returned {history : History} (trail : history.IsTrail)
    {calls : List (Stamp × Call)} {place : Nat} {visit : Visit}
    (returned : (history.run calls).1[place]? = some (some visit)) :
    visit.stamp.identifier ∈ (history.after calls (place + 1)).identifiers := by
  have inside := (List.getElem?_eq_some_iff.1 returned).1
  rw [length_run] at inside
  obtain ⟨result, next⟩ := run_at (List.getElem?_eq_getElem inside) history
  rw [returned, Option.some_inj] at result
  rw [next]
  exact mem_identifiers_of_current? (current?_of_call (run_isTrail trail _) result.symm)

/-- A call that makes a visit draws its identifier. -/
theorem mem_drawn_drop {calls : List (Stamp × Call)} {place : Nat} {stamp : Stamp} {call : Call}
    (here : calls[place]? = some (stamp, call)) (makes : call.makesVisit = true) :
    stamp.identifier ∈ drawn (calls.drop place) := by
  refine List.mem_map.2 ⟨(stamp, call), List.mem_filter.2 ⟨?_, makes⟩, rfl⟩
  refine List.mem_of_getElem? (i := 0) ?_
  rw [List.getElem?_drop, Nat.add_zero, here]

section Distinct

variable {history : History} (trail : history.IsTrail) {calls : List (Stamp × Call)}
  (distinct : (history.identifiers ++ drawn calls).Nodup)

include trail distinct

theorem identifiers_after_nodup (count : Nat) :
    (history.after calls count).identifiers.Nodup := by
  obtain ⟨identifiers, same, part⟩ := identifiers_run_subperm trail (calls.take count)
  have within : identifiers.Sublist (history.identifiers ++ drawn calls) :=
    part.trans ((drawn_sublist (List.take_sublist count calls)).append_left _)
  exact same.nodup_iff.1 (distinct.sublist within)

/-- An identifier that a history holds after some of the calls is not drawn by later ones. -/
theorem not_mem_drawn_of_held {early count : Nat} (before : early ≤ count) {identifier : Uuid}
    (held : identifier ∈ (history.after calls early).identifiers) :
    identifier ∉ drawn (calls.drop count) := by
  have origin := (identifiers_run_subperm trail (calls.take early)).subset held
  have within : (drawn (calls.take early)).Sublist (drawn (calls.take count)) :=
    drawn_sublist (List.take_sublist_take_left before)
  rw [← List.take_append_drop count calls, drawn_append, ← List.append_assoc] at distinct
  have apart := (List.nodup_append.1 distinct).2.2
  exact fun again => apart identifier ((within.append_left _).subset origin) identifier again rfl

/-- An identifier that has left a history stays away. -/
theorem not_mem_identifiers_of_left {early count late : Nat} (before : early ≤ count)
    (later : count ≤ late) {identifier : Uuid}
    (held : identifier ∈ (history.after calls early).identifiers)
    (left : identifier ∉ (history.after calls count).identifiers) :
    identifier ∉ (history.after calls late).identifiers := by
  obtain ⟨more, rfl⟩ := Nat.exists_eq_add_of_le later
  rw [after_add]
  intro back
  rcases List.mem_append.1 ((identifiers_run_subperm (run_isTrail trail _) _).subset back) with
    stayed | again
  · exact left stayed
  · refine not_mem_drawn_of_held trail distinct before held ?_
    exact (drawn_sublist (List.take_sublist more _)).subset again

end Distinct

/-- Visits keep their identity. Suppose that no two calls that make a visit draw the same
identifier. Then no two visits of the history ever share one. A call that makes no visit keeps all
visits as they are, and a call that makes one stamps it with an identifier that was not there
before, returns it, and adds it to the history as the current one. An identifier that has left the
history is never in it again, and no later call returns a visit with it. -/
theorem run_keeps_identity (capacity : Nat) {calls : List (Stamp × Call)}
    (distinct : (drawn calls).Nodup) :
    let history := (ofCapacity capacity).after calls
    let results := ((ofCapacity capacity).run calls).1
    (∀ count, (history count).identifiers.Nodup) ∧
      (∀ place stamp call, calls[place]? = some (stamp, call) →
        (call.makesVisit = false → (history (place + 1)).visits = (history place).visits) ∧
          (call.makesVisit = true → ∃ visit, visit.stamp = stamp ∧
            results[place]? = some (some visit) ∧
            (history place).Adds visit (history (place + 1)) ∧
            ∀ early ≤ place, stamp.identifier ∉ (history early).identifiers)) ∧
      ∀ early count, early ≤ count → ∀ identifier ∈ (history early).identifiers,
        identifier ∉ (history count).identifiers → ∀ late, count ≤ late →
          identifier ∉ (history late).identifiers ∧
            ∀ visit, results[late]? = some (some visit) ∨ (history late).current? = some visit →
              visit.stamp.identifier ≠ identifier := by
  intro history results
  have trail : (ofCapacity capacity).IsTrail := ofCapacity_isTrail capacity
  have reached : ∀ count, (history count).IsTrail := fun count => run_isTrail trail _
  have step : ∀ {place stamp call}, calls[place]? = some (stamp, call) →
      results[place]? = some ((history place).call stamp call).1 ∧
        history (place + 1) = ((history place).call stamp call).2 := fun here => run_at here _
  refine ⟨identifiers_after_nodup trail distinct, fun place stamp call here => ⟨?_, ?_⟩, ?_⟩
  · intro makes
    rw [(step here).2, visits_of_not_makesVisit makes]
  · intro makes
    obtain ⟨visit, stamped, returned, adds⟩ := call_adds (reached place) stamp makes
    obtain ⟨result, next⟩ := step here
    rw [result, next, returned]
    refine ⟨visit, stamped, rfl, adds, fun early before held => ?_⟩
    exact not_mem_drawn_of_held trail distinct before held (mem_drawn_drop here makes)
  · intro early count before identifier held left late later
    have away : ∀ late, count ≤ late → identifier ∉ (history late).identifiers :=
      fun late later => not_mem_identifiers_of_left trail distinct before later held left
    refine ⟨away late later, ?_⟩
    rintro visit (returned | current) same
    · refine away (late + 1) (Nat.le_succ_of_le later) ?_
      exact same ▸ mem_identifiers_of_returned trail returned
    · exact away late later (same ▸ mem_identifiers_of_current? current)

/-- Visits leave in three ways: the first is dropped for lack of room, the second is replaced, and
the third is discarded when another visit is made after a step back. None of them comes back. The
step back draws nothing, though a stamp is offered to it. -/
theorem run_keeps_identity_three_ways :
    let stamped : BitVec 128 → Stamp := fun bits => ⟨⟨bits⟩, default⟩
    let calls : List (Stamp × Call) :=
      [(stamped 1, .push ⟨"/", "", ""⟩), (stamped 2, .push ⟨"/market", "", ""⟩),
        (stamped 3, .push ⟨"/wallet", "", ""⟩), (stamped 3, .back),
        (stamped 4, .replace ⟨"/support", "", ""⟩), (stamped 5, .push ⟨"/home", "", ""⟩)]
    let history := (ofCapacity 2).after calls
    (drawn calls).Nodup ∧ (∀ count, (history count).identifiers.Nodup) ∧
      (history 2).identifiers = [⟨1⟩, ⟨2⟩] ∧ (history 4).identifiers = [⟨2⟩, ⟨3⟩] ∧
      (history 6).identifiers = [⟨4⟩, ⟨5⟩] ∧
      ∀ identifier ∈ [⟨1⟩, ⟨2⟩, ⟨3⟩], ∀ late, 6 ≤ late →
        identifier ∉ (history late).identifiers := by
  intro stamped calls history
  have distinct : (drawn calls).Nodup := by decide
  obtain ⟨apart, _, away⟩ := run_keeps_identity 2 distinct
  have held : ∀ identifier ∈ [⟨1⟩, ⟨2⟩, ⟨3⟩], identifier ∈ (history 2).identifiers ∨
      identifier ∈ (history 4).identifiers := by decide
  have left : ∀ identifier ∈ [⟨1⟩, ⟨2⟩, ⟨3⟩], identifier ∉ (history 6).identifiers := by decide
  refine ⟨distinct, apart, by decide, by decide, by decide, fun identifier member late later => ?_⟩
  rcases held identifier member with early | early
  · exact (away 2 6 (by decide) identifier early (left identifier member) late later).1
  · exact (away 4 6 (by decide) identifier early (left identifier member) late later).1

end History

end Wayfinder
