/-
This file says which lists of declarations make a table, and which table. Every pattern has to be
readable, and under the policy that rejects covered routes no route of the list may be covered by
an earlier one. The table then holds the routes that the declarations stand for, in their order,
and declares them again as they were declared.
-/
import Wayfinder.Proofs.Registration

namespace Wayfinder

namespace Declaration

/-- The route that a declaration stands for, if its pattern can be read. -/
def route? (declaration : Declaration) : Option Route :=
  (Pattern.parse declaration.pattern).toOption.map (Route.mk · declaration.page)

theorem route?_of_parse {declaration : Declaration} {pattern : Pattern}
    (parsed : Pattern.parse declaration.pattern = .ok pattern) :
    declaration.route? = some ⟨pattern, declaration.page⟩ := by
  rw [route?, parsed]
  rfl

theorem route?_eq_some_iff (declaration : Declaration) (route : Route) :
    declaration.route? = some route ↔
      Pattern.parse declaration.pattern = .ok route.pattern ∧ declaration.page = route.page := by
  constructor
  · intro read
    cases parsed : Pattern.parse declaration.pattern with
    | error reason =>
      rw [route?, parsed] at read
      cases read
    | ok pattern =>
      rw [route?_of_parse parsed] at read
      cases read
      exact ⟨rfl, rfl⟩
  · rintro ⟨parsed, page⟩
    rw [route?_of_parse parsed, page]

theorem parse_of_route? {declaration : Declaration} {route : Route}
    (read : declaration.route? = some route) :
    Pattern.parse declaration.pattern = .ok route.pattern :=
  ((route?_eq_some_iff declaration route).1 read).1

/-- The route of a declaration has the text and the page that were declared. -/
theorem eq_of_route? {declaration : Declaration} {route : Route}
    (read : declaration.route? = some route) :
    (⟨route.pattern.text, route.page⟩ : Declaration) = declaration := by
  obtain ⟨parsed, page⟩ := (route?_eq_some_iff declaration route).1 read
  rw [(Pattern.parse_ok parsed).2, ← page]

/-- A relation of patterns holds between two declarations when both patterns can be read and it
holds between them. -/
def Related (relation : Pattern → Pattern → Bool) (first second : Declaration) : Prop :=
  ∃ firstPattern secondPattern, Pattern.parse first.pattern = .ok firstPattern ∧
    Pattern.parse second.pattern = .ok secondPattern ∧ relation firstPattern secondPattern = true

/-- One declaration covers another one. -/
def Covers (general special : Declaration) : Prop :=
  Related Pattern.covers general special

/-- Two declarations overlap. -/
def Overlaps (first second : Declaration) : Prop :=
  Related Pattern.overlaps first second

section Deciding

variable (relation : Pattern → Pattern → Bool) (first second : Declaration)

instance : Decidable (Related relation first second) :=
  match parsedFirst : Pattern.parse first.pattern, parsedSecond : Pattern.parse second.pattern with
  | .ok firstPattern, .ok secondPattern =>
    decidable_of_iff (relation firstPattern secondPattern = true)
      (by simp [Related, parsedFirst, parsedSecond])
  | .error _, _ => isFalse (by simp [Related, parsedFirst])
  | _, .error _ => isFalse (by simp [Related, parsedSecond])

instance : Decidable (first.Covers second) :=
  inferInstanceAs (Decidable (Related Pattern.covers first second))

instance : Decidable (first.Overlaps second) :=
  inferInstanceAs (Decidable (Related Pattern.overlaps first second))

end Deciding

theorem related_iff {first second : Declaration} {firstPattern secondPattern : Pattern}
    (parsedFirst : Pattern.parse first.pattern = .ok firstPattern)
    (parsedSecond : Pattern.parse second.pattern = .ok secondPattern)
    (relation : Pattern → Pattern → Bool) :
    Related relation first second ↔ relation firstPattern secondPattern = true := by
  simp [Related, parsedFirst, parsedSecond]

end Declaration

namespace RouteTable

/-! ### One declaration -/

/-- A declaration is registered when it can be read and the table does not reject it. -/
theorem register_eq_ok_iff (table result : RouteTable) (declaration : Declaration) :
    table.register declaration.pattern declaration.page = (.ok (), result) ↔
      ∃ route, declaration.route? = some route ∧
        (table.shadowing = .reject → ¬ table.Covers route.pattern) ∧
          result = table.append route := by
  constructor
  · intro registered
    rcases register_cases table declaration.pattern declaration.page with
      ⟨_, _, call⟩ | ⟨_, _, _, _, _, call⟩ | ⟨pattern, parsed, admitted, call⟩
    · cases registered.symm.trans call
    · cases registered.symm.trans call
    · exact ⟨_, Declaration.route?_of_parse parsed, admitted,
        (Prod.mk.inj (registered.symm.trans call)).2⟩
  · rintro ⟨route, read, admitted, rfl⟩
    obtain ⟨parsed, page⟩ := (Declaration.route?_eq_some_iff declaration route).1 read
    rw [register_of_admitted parsed admitted, page]

/-- A declaration that can be read is refused when the table rejects it, in the name of the first
route that covers it. -/
theorem register_eq_error_iff (table : RouteTable) (error : RouteError) {declaration : Declaration}
    {route : Route} (read : declaration.route? = some route) :
    (table.register declaration.pattern declaration.page).1 = .error error ↔
      table.shadowing = .reject ∧ ∃ earlier, table.coveredBy? route.pattern = some earlier ∧
        error = .shadowed declaration.pattern earlier.pattern.text := by
  obtain ⟨parsed, _⟩ := (Declaration.route?_eq_some_iff declaration route).1 read
  rw [register, parsed]
  cases policy : table.shadowing with
  | warn => simp
  | reject =>
    cases found : table.coveredBy? route.pattern with
    | none => simp [found]
    | some earlier => simp [found, (Pattern.parse_ok parsed).2, eq_comm]

/-! ### A list of declarations -/

/-- No route of a list is covered by an earlier one. -/
def Uncovered (routes : List Route) : Prop :=
  routes.Pairwise fun earlier later => earlier.pattern.covers later.pattern = false

/-- The routes that declarations stand for, without those that cannot be read. -/
def routesOf (declarations : List Declaration) : List Route :=
  declarations.filterMap Declaration.route?

/-- The table with more routes at the end. -/
def extend (table : RouteTable) (routes : List Route) : RouteTable :=
  { table with routes := table.routes ++ routes }

theorem extend_nil (table : RouteTable) : table.extend [] = table := by
  rw [extend, List.append_nil]

theorem extend_append (table : RouteTable) (route : Route) (routes : List Route) :
    (table.append route).extend routes = table.extend (route :: routes) := by
  rw [extend, append, extend, List.append_assoc, List.singleton_append]

theorem routesOf_cons_of_route? {declaration : Declaration} {route : Route}
    (read : declaration.route? = some route) (rest : List Declaration) :
    routesOf (declaration :: rest) = route :: routesOf rest :=
  List.filterMap_cons_some read

/-- The routes of declarations are uncovered when no declaration is covered by an earlier one. -/
theorem uncovered_routesOf_iff (declarations : List Declaration) :
    Uncovered (routesOf declarations) ↔
      declarations.Pairwise fun earlier later => ¬ earlier.Covers later := by
  rw [Uncovered, routesOf, List.pairwise_filterMap]
  refine List.Pairwise.iff fun earlier later => ?_
  constructor
  · rintro apart ⟨generalPattern, specialPattern, parsedGeneral, parsedSpecial, covers⟩
    have separate := apart _ (Declaration.route?_of_parse parsedGeneral)
      _ (Declaration.route?_of_parse parsedSpecial)
    rw [covers] at separate
    cases separate
  · intro apart general readGeneral special readSpecial
    refine Bool.eq_false_iff.2 fun covers => apart ?_
    exact (Declaration.related_iff (Declaration.parse_of_route? readGeneral)
      (Declaration.parse_of_route? readSpecial) _).2 covers

theorem uncovered_append_iff (table : RouteTable) (route : Route) :
    Uncovered (table.append route).routes ↔
      Uncovered table.routes ∧ ¬ table.Covers route.pattern := by
  simp [Uncovered, Covers, append, List.pairwise_append]

/-- The routes in front of some routes of an uncovered list are uncovered themselves. -/
theorem uncovered_of_extend {table : RouteTable} {routes : List Route}
    (uncovered : Uncovered (table.extend routes).routes) : Uncovered table.routes :=
  (List.pairwise_append.1 uncovered).1

/-- A list of declarations is registered when each can be read and, under the policy that
rejects covered routes, none is covered by an earlier one. -/
theorem registerAll_eq_ok_iff (table result : RouteTable) (declarations : List Declaration)
    (uncovered : table.shadowing = .reject → Uncovered table.routes) :
    table.registerAll declarations = .ok result ↔
      (∀ declaration ∈ declarations, declaration.route?.isSome = true) ∧
        (table.shadowing = .reject → Uncovered (table.extend (routesOf declarations)).routes) ∧
          result = table.extend (routesOf declarations) := by
  induction declarations generalizing table with
  | nil =>
    rw [registerAll, Except.ok.injEq, show routesOf [] = [] from rfl, extend_nil,
      and_iff_right uncovered, and_iff_right (List.forall_mem_nil _), eq_comm]
  | cons declaration rest inductionHypothesis =>
    rcases registered : table.register declaration.pattern declaration.page with
      ⟨outcome, extended⟩
    cases outcome with
    | error error =>
      refine iff_of_false (by simp [registerAll, registered]) ?_
      rintro ⟨readable, whole, _⟩
      obtain ⟨route, read⟩ := Option.isSome_iff_exists.1 (readable declaration List.mem_cons_self)
      rw [routesOf_cons_of_route? read, ← extend_append] at whole
      have accepted := (register_eq_ok_iff table _ declaration).2 ⟨route, read, fun rejects =>
        ((uncovered_append_iff table route).1 (uncovered_of_extend (whole rejects))).2, rfl⟩
      rw [registered] at accepted
      cases accepted
    | ok =>
      obtain ⟨route, read, admitted, rfl⟩ := (register_eq_ok_iff table _ declaration).1 registered
      have kept : table.shadowing = .reject → Uncovered (table.append route).routes :=
        fun rejects => (uncovered_append_iff table route).2 ⟨uncovered rejects, admitted rejects⟩
      simp only [registerAll, registered]
      rw [inductionHypothesis (table.append route) kept, List.forall_mem_cons, read,
        routesOf_cons_of_route? read, ← extend_append, and_iff_right (Option.isSome_some)]
      rfl

/-! ### The table of a list of declarations -/

/-- A list of declarations makes a table when each can be read and, under the policy that rejects
covered routes, none is covered by an earlier one. -/
theorem ofDeclarations_eq_ok_iff (shadowing : Shadowing) (declarations : List Declaration)
    (result : RouteTable) :
    ofDeclarations shadowing declarations = .ok result ↔
      (∀ declaration ∈ declarations, declaration.route?.isSome = true) ∧
        (shadowing = .reject → Uncovered (routesOf declarations)) ∧
          result = ⟨shadowing, routesOf declarations⟩ :=
  registerAll_eq_ok_iff (empty shadowing) result declarations fun _ => List.Pairwise.nil

/-- The table of a list of declarations declares what was declared. -/
theorem declarations_routesOf {declarations : List Declaration}
    (readable : ∀ declaration ∈ declarations, declaration.route?.isSome = true)
    (shadowing : Shadowing) :
    RouteTable.declarations ⟨shadowing, routesOf declarations⟩ = declarations := by
  induction declarations with
  | nil => rfl
  | cons declaration rest inductionHypothesis =>
    obtain ⟨readableFirst, readableRest⟩ := List.forall_mem_cons.1 readable
    obtain ⟨route, read⟩ := Option.isSome_iff_exists.1 readableFirst
    have again := inductionHypothesis readableRest
    rw [RouteTable.declarations] at again ⊢
    simp only [routesOf_cons_of_route? read, List.map_cons, Declaration.eq_of_route? read, again]

end RouteTable

end Wayfinder
