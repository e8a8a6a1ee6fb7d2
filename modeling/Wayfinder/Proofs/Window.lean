/-
This file proves that a history with little room is a window on one with more room. The same calls
on both lead to the same locations, and the smaller one holds the last locations of the larger
one, with the same number of them after the current one. What the two share is their newest end:
the older visits of the smaller trail are the last older ones of the larger trail. Every call
keeps this, until a step back is possible in the larger history only.
-/
import Wayfinder.Proofs.Trail

namespace Wayfinder

namespace Trail

/-- A trail shows the newest end of a longer one: the same current location, the same newer
locations and the last of the older ones. -/
structure IsEndOf (short long : Trail) : Prop where
  older : short.older.map Visit.location <:+ long.older.map Visit.location
  current : short.current.location = long.current.location
  newer : short.newer.map Visit.location = long.newer.map Visit.location

/-! ### One call -/

section Call

variable {small large : Nat} {short long : Trail} {short? long? : Option Trail}

/-- The last few elements of the end of a list are an end of its last elements, if these are at
least as many. -/
theorem rtake_suffix_rtake {Element : Type} {short long : List Element} (ends : short <:+ long)
    {few many : Nat} (fewer : few ≤ many) : short.rtake few <:+ long.rtake many := by
  have within : short.rtake few <:+ long := (List.drop_suffix _ short).trans ends
  refine List.suffix_of_suffix_length_le within (List.drop_suffix _ long) ?_
  have length := ends.length_le
  rw [List.rtake, List.rtake, List.length_drop, List.length_drop]
  omega

theorem map_rtake {Element Image : Type} (image : Element → Image) (elements : List Element)
    (count : Nat) : (elements.rtake count).map image = (elements.map image).rtake count := by
  rw [List.rtake, List.rtake, List.map_drop, List.length_map]

/-- The visits up to the current one show the same end. -/
theorem reached_suffix (ends : short.IsEndOf long) :
    (short.older ++ [short.current]).map Visit.location <:+
      (long.older ++ [long.current]).map Visit.location := by
  rw [List.map_append, List.map_append, List.map_singleton, List.map_singleton, ends.current]
  exact List.suffix_append_self_iff.2 ends.older

theorem map_visits (trail : Trail) :
    trail.visits.map Visit.location =
      (trail.older ++ [trail.current]).map Visit.location ++ trail.newer.map Visit.location := by
  rw [visits, List.map_append]

theorem push_isEndOf (fewer : small ≤ large) (ends : Option.Rel IsEndOf short? long?)
    {first second : Visit} (same : first.location = second.location) :
    (push small first short?).IsEndOf (push large second long?) := by
  cases ends with
  | none => exact ⟨List.suffix_rfl, same, rfl⟩
  | some ends =>
    refine ⟨?_, same, rfl⟩
    rw [push, push, map_rtake, map_rtake]
    exact rtake_suffix_rtake (reached_suffix ends) (Nat.sub_le_sub_right fewer 1)

theorem replace_isEndOf (fewer : small ≤ large) (ends : Option.Rel IsEndOf short? long?)
    {first second : Visit} (same : first.location = second.location) :
    (replace small first short?).IsEndOf (replace large second long?) := by
  cases ends with
  | none => exact push_isEndOf fewer Option.Rel.none same
  | some ends => exact ⟨ends.older, same, ends.newer⟩

theorem back?_of_nil {trail : Trail} (empty : trail.older = []) : trail.back? = none := by
  rw [back?, empty]
  rfl

theorem back?_of_concat {trail : Trail} {rest : List Visit} {previous : Visit}
    (older : trail.older = rest ++ [previous]) :
    trail.back? = some ⟨rest, previous, trail.current :: trail.newer⟩ := by
  simp [back?, older]

/-- A step back is taken in both trails, in none of them, or in the longer one only. -/
theorem back?_isEndOf (ends : short.IsEndOf long) :
    Option.Rel IsEndOf short.back? long.back? ∨
      short.back? = none ∧ ∃ moved, long.back? = some moved := by
  have suffix := ends.older
  rcases List.eq_nil_or_concat' short.older with shortEmpty | ⟨shortRest, shortLast, shortOlder⟩ <;>
    rcases List.eq_nil_or_concat' long.older with longEmpty | ⟨longRest, longLast, longOlder⟩
  · rw [back?_of_nil shortEmpty, back?_of_nil longEmpty]
    exact Or.inl Option.Rel.none
  · exact Or.inr ⟨back?_of_nil shortEmpty, _, back?_of_concat longOlder⟩
  · rw [shortOlder, longEmpty, List.map_nil, List.suffix_nil, List.map_eq_nil_iff] at suffix
    exact absurd suffix (List.append_ne_nil_of_right_ne_nil _ (List.cons_ne_nil _ _))
  · rw [shortOlder, longOlder, List.map_append, List.map_append] at suffix
    obtain ⟨front, whole⟩ := suffix
    rw [← List.append_assoc] at whole
    obtain ⟨sameRest, sameLast⟩ := List.append_inj' whole rfl
    rw [back?_of_concat shortOlder, back?_of_concat longOlder]
    refine Or.inl (Option.Rel.some ⟨⟨front, sameRest⟩, List.singleton_inj.1 sameLast, ?_⟩)
    rw [List.map_cons, List.map_cons, ends.current, ends.newer]

theorem forward?_isEndOf (ends : short.IsEndOf long) :
    Option.Rel IsEndOf short.forward? long.forward? := by
  have newer := ends.newer
  rw [forward?, forward?]
  cases shortNewer : short.newer with
  | nil =>
    rw [shortNewer, List.map_nil, eq_comm, List.map_eq_nil_iff] at newer
    rw [newer]
    exact Option.Rel.none
  | cons next rest =>
    rw [shortNewer, List.map_cons, eq_comm, List.map_eq_cons_iff] at newer
    obtain ⟨longNext, longRest, longNewer, sameNext, sameRest⟩ := newer
    rw [longNewer]
    exact Option.Rel.some ⟨reached_suffix ends, sameNext.symm, sameRest.symm⟩

/-- After a call the shorter trail still shows the end of the longer one, unless the call was a
step back that is possible in the longer one only. -/
theorem after?_isEndOf (fewer : small ≤ large) (ends : Option.Rel IsEndOf short? long?)
    (first second : Stamp) (call : History.Call) :
    Option.Rel IsEndOf (after? small short? first call) (after? large long? second call) ∨
      call = .back ∧ after? small short? first call = none ∧
        ∃ moved, after? large long? second call = some moved := by
  cases call with
  | push location => exact Or.inl (Option.Rel.some (push_isEndOf fewer ends rfl))
  | replace location => exact Or.inl (Option.Rel.some (replace_isEndOf fewer ends rfl))
  | back =>
    cases ends with
    | none => exact Or.inl Option.Rel.none
    | some ends => exact (back?_isEndOf ends).imp_right (And.intro rfl)
  | forward =>
    cases ends with
    | none => exact Or.inl Option.Rel.none
    | some ends => exact Or.inl (forward?_isEndOf ends)

/-- A call leads to the same location in both trails and keeps the shorter one the end of the
longer one, unless it is a step back that is possible in the longer one only. -/
theorem call_isEndOf (fewer : small ≤ large) (ends : Option.Rel IsEndOf short? long?)
    (first second : Stamp) (call : History.Call) :
    ((Trail.call small short? first call).1.map Visit.location =
        (Trail.call large long? second call).1.map Visit.location ∧
      Option.Rel IsEndOf (Trail.call small short? first call).2
        (Trail.call large long? second call).2) ∨
      call = .back ∧ (Trail.call small short? first call).1 = none ∧
        ∃ visit, (Trail.call large long? second call).1 = some visit := by
  rw [Trail.call, Trail.call]
  rcases after?_isEndOf fewer ends first second call with kept | ⟨isBack, stays, moved, moves⟩
  · refine Or.inl ?_
    generalize after? small short? first call = shortNext at kept
    generalize after? large long? second call = longNext at kept
    cases kept with
    | none => exact ⟨rfl, ends⟩
    | some kept => exact ⟨congrArg some kept.current, Option.Rel.some kept⟩
  · rw [stays, moves]
    exact Or.inr ⟨isBack, rfl, moved.current, rfl⟩

end Call

end Trail

namespace History

/-! ### Sequences of calls -/

/-- At some place among the calls stands a step back that returns nothing among the first results
but a visit among the second ones. -/
structure PartsAt (calls : List Call) (firsts seconds : List (Option Visit)) (place : Nat) :
    Prop where
  back : calls[place]? = some .back
  stays : firsts[place]? = some none
  moves : ∃ visit, seconds[place]? = some (some visit)

instance (calls : List Call) (firsts seconds : List (Option Visit)) (place : Nat) :
    Decidable (PartsAt calls firsts seconds place) :=
  decidable_of_iff (calls[place]? = some .back ∧ firsts[place]? = some none ∧
    seconds[place]?.join.isSome = true) <| by
      simp only [Option.isSome_iff_exists, Option.join_eq_some_iff]
      exact ⟨fun ⟨back, stays, moves⟩ => ⟨back, stays, moves⟩,
        fun ⟨back, stays, moves⟩ => ⟨back, stays, moves⟩⟩

theorem partsAt_cons_succ {call : Call} {calls : List Call} {first second : Option Visit}
    {firsts seconds : List (Option Visit)} {place : Nat}
    (parts : PartsAt calls firsts seconds place) :
    PartsAt (call :: calls) (first :: firsts) (second :: seconds) (place + 1) :=
  ⟨parts.back, parts.stays, parts.moves⟩

end History

namespace Trail

open History (PartsAt)

/-- Calls lead to the same locations in both trails and keep the shorter one the end of the longer
one, if none of them parts the trails. -/
theorem run_isEndOf {small large : Nat} (fewer : small ≤ large) {short? long? : Option Trail}
    (ends : Option.Rel IsEndOf short? long?) {firsts seconds : List (Stamp × History.Call)}
    (same : firsts.map Prod.snd = seconds.map Prod.snd)
    (together : ∀ place, ¬ PartsAt (firsts.map Prod.snd) (Trail.run small short? firsts).1
      (Trail.run large long? seconds).1 place) :
    (Trail.run small short? firsts).1.map (Option.map Visit.location) =
        (Trail.run large long? seconds).1.map (Option.map Visit.location) ∧
      Option.Rel IsEndOf (Trail.run small short? firsts).2 (Trail.run large long? seconds).2 := by
  induction firsts generalizing short? long? seconds with
  | nil =>
    rw [List.map_nil, eq_comm, List.map_eq_nil_iff] at same
    subst same
    exact ⟨rfl, ends⟩
  | cons first rest inductionHypothesis =>
    rw [List.map_cons, eq_comm, List.map_eq_cons_iff] at same
    obtain ⟨second, secondRest, rfl, sameCall, sameRest⟩ := same
    obtain ⟨firstStamp, call⟩ := first
    obtain ⟨secondStamp, secondCall⟩ := second
    cases sameCall
    rcases call_isEndOf fewer ends firstStamp secondStamp call with
      ⟨sameLocation, kept⟩ | ⟨rfl, stays, visit, moves⟩
    · obtain ⟨sameLocations, keptToo⟩ := inductionHypothesis kept sameRest.symm fun place parts =>
        together (place + 1) (History.partsAt_cons_succ parts)
      refine ⟨?_, keptToo⟩
      simp only [Trail.run, List.map_cons, sameLocation, sameLocations]
    · exact absurd ⟨rfl, congrArg some stays, visit, congrArg some moves⟩ (together 0)

end Trail

namespace History

/-- Calls on a new history are the calls on a trail that has not begun. -/
theorem run_ofCapacity (capacity : Nat) (calls : List (Stamp × Call)) :
    (ofCapacity capacity).run calls =
      ((Trail.run (max 1 capacity) none calls).1,
        ofTrail (max 1 capacity) (Trail.run (max 1 capacity) none calls).2) :=
  run_ofTrail (Nat.lt_of_lt_of_le Nat.zero_lt_one (Nat.le_max_left 1 capacity)) none calls

/-- The results of the first few calls are the first few results. -/
theorem run_take (history : History) (calls : List (Stamp × Call)) (count : Nat) :
    (history.run (calls.take count)).1 = (history.run calls).1.take count := by
  induction calls generalizing history count with
  | nil => rw [List.take_nil, run, List.take_nil]
  | cons entry rest inductionHypothesis =>
    cases count with
    | zero => rfl
    | succ count =>
      rw [List.take_succ_cons, run, run, List.take_succ_cons]
      exact congrArg _ (inductionHypothesis _ count)

theorem partsAt_of_take {calls : List Call} {firsts seconds : List (Option Visit)}
    {count place : Nat}
    (parts : PartsAt (calls.take count) (firsts.take count) (seconds.take count) place) :
    place < count ∧ PartsAt calls firsts seconds place := by
  have inside : place < count := by
    by_contra beyond
    have back := parts.back
    rw [List.getElem?_take_eq_none (Nat.le_of_not_lt beyond)] at back
    cases back
  obtain ⟨back, stays, moves⟩ := parts
  rw [List.getElem?_take_of_lt inside] at back stays moves
  exact ⟨inside, back, stays, moves⟩

/-- A history is a window on a larger one: both have the same current location and can go forward
alike, and the smaller one holds the last locations of the larger one, with as many after the
current one. -/
structure IsWindowOn (small large : History) : Prop where
  current : small.current?.map Visit.location = large.current?.map Visit.location
  forward : small.canGoForward = large.canGoForward
  visits : small.visits.map Visit.location <:+ large.visits.map Visit.location
  newer : (small.visits.drop (small.cursor + 1)).length =
    (large.visits.drop (large.cursor + 1)).length

theorem ofTrail_isWindowOn (small large : Nat) {short? long? : Option Trail}
    (ends : Option.Rel Trail.IsEndOf short? long?) :
    (ofTrail small short?).IsWindowOn (ofTrail large long?) := by
  cases ends with
  | none => exact ⟨rfl, rfl, List.suffix_rfl, rfl⟩
  | @some short long ends =>
    have newer : short.newer.length = long.newer.length := by
      simpa only [List.length_map] using congrArg List.length ends.newer
    refine ⟨?_, ?_, ?_, ?_⟩
    · rw [current?_ofTrail, current?_ofTrail]
      exact congrArg some ends.current
    · have alike := congrArg List.isEmpty ends.newer
      rw [List.isEmpty_map, List.isEmpty_map] at alike
      rw [canGoForward_ofTrail, canGoForward_ofTrail, alike]
    · show short.visits.map Visit.location <:+ long.visits.map Visit.location
      rw [Trail.map_visits, Trail.map_visits, ends.newer]
      exact List.suffix_append_self_iff.2 (Trail.reached_suffix ends)
    · simp [ofTrail, Trail.visits, newer]

/-- A smaller history is a window on a larger one. As long as no step back is possible in the larger
one only, the same calls on both lead to the same locations, and afterwards the smaller history is
a window on the larger one. -/
theorem run_isWindowOn {small large : Nat} (smaller : small ≤ large)
    {firsts seconds : List (Stamp × Call)} (same : firsts.map Prod.snd = seconds.map Prod.snd)
    (count : Nat)
    (together : ∀ place < count, ¬ PartsAt (firsts.map Prod.snd)
      ((ofCapacity small).run firsts).1 ((ofCapacity large).run seconds).1 place) :
    (((ofCapacity small).run firsts).1.take count).map (Option.map Visit.location) =
        (((ofCapacity large).run seconds).1.take count).map (Option.map Visit.location) ∧
      ((ofCapacity small).run (firsts.take count)).2.IsWindowOn
        ((ofCapacity large).run (seconds.take count)).2 := by
  have rooms : max 1 small ≤ max 1 large := by omega
  have sameTaken : (firsts.take count).map Prod.snd = (seconds.take count).map Prod.snd := by
    rw [List.map_take, List.map_take, same]
  have kept := Trail.run_isEndOf rooms Option.Rel.none sameTaken fun place parts => by
    rw [← congrArg Prod.fst (run_ofCapacity small (firsts.take count)),
      ← congrArg Prod.fst (run_ofCapacity large (seconds.take count)), run_take, run_take,
      List.map_take] at parts
    obtain ⟨inside, partsToo⟩ := partsAt_of_take parts
    exact together place inside partsToo
  rw [← run_take, ← run_take, run_ofCapacity, run_ofCapacity]
  exact kept.imp_right (ofTrail_isWindowOn _ _)

theorem run_isWindowOn_two_three :
    let calls : List Call := [.push ⟨"/", "", ""⟩, .push ⟨"/market", "", ""⟩,
      .push ⟨"/wallet", "", ""⟩, .back, .back]
    let firsts : List (Stamp × Call) := calls.map (Prod.mk ⟨⟨1⟩, default⟩)
    let seconds : List (Stamp × Call) := calls.map (Prod.mk ⟨⟨2⟩, default⟩)
    let smallResults := ((ofCapacity 2).run firsts).1
    let largeResults := ((ofCapacity 3).run seconds).1
    PartsAt calls smallResults largeResults 4 ∧
      (∀ place < 4, ¬ PartsAt calls smallResults largeResults place) ∧
      (smallResults.take 4).map (Option.map Visit.location) =
        (largeResults.take 4).map (Option.map Visit.location) ∧
      ((ofCapacity 2).run (firsts.take 4)).2.IsWindowOn
        ((ofCapacity 3).run (seconds.take 4)).2 := by
  intro calls firsts seconds smallResults largeResults
  have together : ∀ place < 4, ¬ PartsAt calls smallResults largeResults place := by decide
  have same : firsts.map Prod.snd = seconds.map Prod.snd := rfl
  exact ⟨by decide, together, run_isWindowOn (Nat.le_succ 2) same 4 together⟩

end History

end Wayfinder
