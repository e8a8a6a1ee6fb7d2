/-
This file proves that checking a new route against the earlier ones, one at a time, is enough.
A route of a table is selected by some path unless a single earlier route covers it, however many
earlier routes there are; in particular a table that rejects covered routes has no dead one. The
covered routes that the other policy keeps are never selected, so both policies lead every path
to the same place.
-/
import Wayfinder.Proofs.Covering
import Wayfinder.Proofs.Registration

namespace Wayfinder.RouteTable

/-! ### Selection -/

/-- A path selects a route of a table when the route matches it and no earlier one does. -/
structure Selects (table : RouteTable) (path : String) (index : Fin table.routes.length) :
    Prop where
  matched : (table.routes[index].pattern.match? path).isSome = true
  first : ∀ earlier < index, table.routes[earlier].pattern.match? path = none

/-- The routes in front of an index are those with a smaller one. -/
theorem mem_take_routes_iff {table : RouteTable} (index : Fin table.routes.length)
    (route : Route) :
    route ∈ table.routes.take index ↔ ∃ earlier < index, table.routes[earlier] = route := by
  rw [List.mem_take_iff_getElem]
  constructor
  · rintro ⟨earlier, bound, rfl⟩
    have before : earlier < index.val := lt_of_lt_of_le bound (min_le_left _ _)
    exact ⟨⟨earlier, before.trans index.isLt⟩, before, rfl⟩
  · rintro ⟨earlier, before, rfl⟩
    exact ⟨earlier.val, lt_min before earlier.isLt, rfl⟩

/-- The route that a path selects is the one that the path resolves to. -/
theorem resolve_of_selects {table : RouteTable} {path : String}
    {index : Fin table.routes.length} (selects : table.Selects path index) :
    ∃ parameters, table.routes[index].pattern.match? path = some parameters ∧
      table.resolve path = some ⟨table.routes[index], parameters⟩ := by
  obtain ⟨parameters, matched⟩ := Option.isSome_iff_exists.1 selects.matched
  refine ⟨parameters, matched, List.findSome?_eq_some_iff.2 ?_⟩
  refine ⟨table.routes.take index, table.routes[index], table.routes.drop (index + 1), ?_, ?_, ?_⟩
  · exact (List.take_append_drop index.val table.routes).symm.trans
      (congrArg _ (List.drop_eq_getElem_cons index.isLt))
  · rw [matched, Option.map_some]
  · intro route member
    obtain ⟨earlier, before, rfl⟩ := (mem_take_routes_iff index route).1 member
    exact Option.map_eq_none_iff.2 (selects.first earlier before)

/-- A route that some path selects is covered by no earlier one. -/
theorem uncovered_of_selects {table : RouteTable} (wellFormed : table.WellFormed) {path : String}
    {index : Fin table.routes.length} (selects : table.Selects path index)
    (earlier : Fin table.routes.length) (before : earlier < index) :
    table.routes[earlier].pattern.covers table.routes[index].pattern = false := by
  refine Bool.eq_false_iff.2 fun covers => ?_
  have matched := Pattern.match?_isSome_of_covers
    (wellFormed.patterns _ (List.getElem_mem index.isLt)) covers selects.matched
  rw [selects.first earlier before] at matched
  exact Bool.false_ne_true matched

/-- A route that no earlier one covers is selected by some path. -/
theorem exists_selects_of_uncovered {table : RouteTable} (wellFormed : table.WellFormed)
    (index : Fin table.routes.length)
    (uncovered : ∀ earlier < index,
      table.routes[earlier].pattern.covers table.routes[index].pattern = false) :
    ∃ path, table.Selects path index := by
  have apart : ∀ other ∈ (table.routes.take index).map Route.pattern,
      other.covers table.routes[index].pattern = false := by
    intro other member
    obtain ⟨route, routeMember, rfl⟩ := List.mem_map.1 member
    obtain ⟨earlier, before, rfl⟩ := (mem_take_routes_iff index route).1 routeMember
    exact uncovered earlier before
  obtain ⟨path, matched, unmatched⟩ := Pattern.exists_path_of_uncovered
    (wellFormed.patterns _ (List.getElem_mem index.isLt)) _ apart
  refine ⟨path, matched, fun earlier before => unmatched _ (List.mem_map_of_mem ?_)⟩
  exact (mem_take_routes_iff index _).2 ⟨earlier, before, rfl⟩

/-- Shadow detection is sound and complete against all earlier routes together. In a table that
calls reach, some path is matched by a route and by no earlier one, and hence resolves to the
route, exactly when no single earlier route covers it; under the policy that rejects, every
route is selected by some path. -/
theorem selects_iff_uncovered (shadowing : Shadowing) (declarations : List Declaration) :
    let table := (empty shadowing).attemptAll declarations
    let strict := (empty .reject).attemptAll declarations
    (∀ index : Fin table.routes.length, (∃ path, table.Selects path index) ↔
        ∀ earlier < index,
          table.routes[earlier].pattern.covers table.routes[index].pattern = false) ∧
      (∀ (path : String) (index : Fin table.routes.length), table.Selects path index →
        ∃ parameters, table.resolve path = some ⟨table.routes[index], parameters⟩) ∧
      ∀ index : Fin strict.routes.length, ∃ path parameters, strict.Selects path index ∧
        strict.resolve path = some ⟨strict.routes[index], parameters⟩ := by
  intro table strict
  have wellFormed : table.WellFormed :=
    attemptAll_wellFormed (empty_wellFormed shadowing) declarations
  have strictWellFormed : strict.WellFormed :=
    attemptAll_wellFormed (empty_wellFormed .reject) declarations
  refine ⟨fun index => ⟨?_, ?_⟩, fun path index selects => ?_, fun index => ?_⟩
  · rintro ⟨path, selects⟩ earlier before
    exact uncovered_of_selects wellFormed selects earlier before
  · exact exists_selects_of_uncovered wellFormed index
  · obtain ⟨parameters, _, resolved⟩ := resolve_of_selects selects
    exact ⟨parameters, resolved⟩
  · have apart := strictWellFormed.uncovered (attemptAll_shadowing (empty .reject) declarations)
    obtain ⟨path, selects⟩ := exists_selects_of_uncovered strictWellFormed index
      fun earlier before => List.pairwise_iff_getElem.1 apart _ _ earlier.isLt index.isLt before
    obtain ⟨parameters, _, resolved⟩ := resolve_of_selects selects
    exact ⟨path, parameters, selects, resolved⟩

/-! ### The two policies -/

/-- A table with one more route resolves what it resolved before as before, and the rest by the
new route. -/
theorem resolve_append (table : RouteTable) (route : Route) (path : String) :
    (table.append route).resolve path =
      (table.resolve path).or ((route.pattern.match? path).map (RouteMatch.mk route)) := by
  rw [resolve, append, List.findSome?_append, List.findSome?_singleton]
  rfl

/-- A pattern that some route covers matches only paths that the table resolves. -/
theorem resolve_isSome_of_covers {table : RouteTable} {pattern : Pattern}
    (wellFormed : pattern.WellFormed) (covered : table.Covers pattern) {path : String}
    (matched : (pattern.match? path).isSome = true) : (table.resolve path).isSome = true := by
  obtain ⟨earlier, member, covers⟩ := covered
  rw [resolve, List.findSome?_isSome_iff]
  refine ⟨earlier, member, ?_⟩
  rw [Option.isSome_map]
  exact Pattern.match?_isSome_of_covers wellFormed covers matched

/-- A route that matches only paths that are resolved already changes no resolution. -/
theorem resolve_append_of_resolved {table : RouteTable} {route : Route} {path : String}
    (resolved : (route.pattern.match? path).isSome = true → (table.resolve path).isSome = true) :
    (table.append route).resolve path = table.resolve path := by
  rw [resolve_append]
  cases matched : route.pattern.match? path with
  | none => rw [Option.map_none, Option.or_none]
  | some parameters =>
    rw [matched] at resolved
    obtain ⟨found, equal⟩ := Option.isSome_iff_exists.1 (resolved rfl)
    rw [equal, Option.some_or]

/-- The policy that keeps covered routes registers every pattern. -/
theorem attempt_of_keeps {table : RouteTable} (keeps : table.shadowing = .warn)
    {declaration : Declaration} {pattern : Pattern}
    (parsed : Pattern.parse declaration.pattern = .ok pattern) :
    table.attempt declaration = table.append ⟨pattern, declaration.page⟩ := by
  rw [attempt, register_of_admitted parsed]
  intro rejects
  rw [keeps] at rejects
  cases rejects

/-- A table that keeps covered routes and one that rejects them, which resolve alike. -/
structure Agree (keeping rejecting : RouteTable) : Prop where
  keeps : keeping.shadowing = .warn
  rejects : rejecting.shadowing = .reject
  alike : ∀ path, keeping.resolve path = rejecting.resolve path

theorem agree_attempt {keeping rejecting : RouteTable} (agree : Agree keeping rejecting)
    (declaration : Declaration) :
    Agree (keeping.attempt declaration) (rejecting.attempt declaration) where
  keeps := (attempt_shadowing keeping declaration).trans agree.keeps
  rejects := (attempt_shadowing rejecting declaration).trans agree.rejects
  alike := by
    intro path
    rcases attempt_cases rejecting declaration with
      ⟨_, invalid, same⟩ | ⟨pattern, parsed, _, covered, same⟩ | ⟨pattern, parsed, _, appended⟩
    · rw [same, attempt, register_of_invalid keeping invalid]
      exact agree.alike path
    · -- Only one table grows, by a route that a route of the other one covers.
      rw [same, attempt_of_keeps agree.keeps parsed, ← agree.alike path]
      refine resolve_append_of_resolved fun matched => ?_
      rw [agree.alike path]
      exact resolve_isSome_of_covers (Pattern.parse_ok parsed).1 covered matched
    · rw [appended, attempt_of_keeps agree.keeps parsed, resolve_append, resolve_append,
        agree.alike path]

theorem agree_attemptAll {keeping rejecting : RouteTable} (agree : Agree keeping rejecting)
    (declarations : List Declaration) :
    Agree (keeping.attemptAll declarations) (rejecting.attemptAll declarations) := by
  induction declarations generalizing keeping rejecting with
  | nil => exact agree
  | cons declaration rest inductionHypothesis =>
    exact inductionHypothesis (agree_attempt agree declaration)

/-- Both policies agree on every navigation: after the same calls, failures ignored, each path
resolves to the same route and parameters, or to none, in both tables. -/
theorem resolve_warn_eq_reject (declarations : List Declaration) (path : String) :
    ((empty .warn).attemptAll declarations).resolve path =
      ((empty .reject).attemptAll declarations).resolve path := by
  have start : Agree (empty .warn) (empty .reject) := ⟨rfl, rfl, fun _ => rfl⟩
  exact (agree_attemptAll start declarations).alike path

end Wayfinder.RouteTable
