/-
This file describes registration one call at a time and over any sequence of calls. A call
appends its route, or it fails and changes nothing: when its text is no pattern, and under the
policy that rejects also when an earlier route covers the new one. Hence every table that calls
can reach holds well-formed patterns only, and under the policy that rejects no route of it is
covered by an earlier one.
-/
import Wayfinder.Proofs.Matching
import Wayfinder.RouteTable

namespace Wayfinder.RouteTable

/-! ### One call -/

/-- The table after a call that registers a declared route, whether the call fails or not. -/
def attempt (table : RouteTable) (declaration : Declaration) : RouteTable :=
  (table.register declaration.pattern declaration.page).2

/-- Some route of a table covers a pattern. -/
def Covers (table : RouteTable) (pattern : Pattern) : Prop :=
  ∃ earlier ∈ table.routes, earlier.pattern.covers pattern = true

theorem coveredBy?_eq_none_iff (table : RouteTable) (pattern : Pattern) :
    table.coveredBy? pattern = none ↔ ¬ table.Covers pattern := by
  simp only [coveredBy?, List.find?_eq_none, Covers, not_exists, not_and]

theorem register_of_invalid (table : RouteTable) {text : String} {reason : PatternError}
    (invalid : Pattern.parse text = .error reason) (page : Page) :
    table.register text page = (.error (.invalidPattern text reason), table) := by
  rw [register, invalid]

theorem register_of_shadowed {table : RouteTable} (rejects : table.shadowing = .reject)
    {text : String} {pattern : Pattern} (parsed : Pattern.parse text = .ok pattern)
    {earlier : Route} (covered : table.coveredBy? pattern = some earlier) (page : Page) :
    table.register text page =
      (.error (.shadowed pattern.text earlier.pattern.text), table) := by
  rw [register, parsed]
  simp only [rejects, covered]

theorem register_of_admitted {table : RouteTable} {text : String} {pattern : Pattern}
    (parsed : Pattern.parse text = .ok pattern)
    (admitted : table.shadowing = .reject → ¬ table.Covers pattern) (page : Page) :
    table.register text page = (.ok (), table.append ⟨pattern, page⟩) := by
  rw [register, parsed]
  cases policy : table.shadowing with
  | warn => rfl
  | reject => simp only [(coveredBy?_eq_none_iff table pattern).2 (admitted policy)]

/-- What a call can do: fail at its text, fail at a route that covers the new one, or append. -/
theorem register_cases (table : RouteTable) (text : String) (page : Page) :
    (∃ reason, Pattern.parse text = .error reason ∧
        table.register text page = (.error (.invalidPattern text reason), table)) ∨
      (∃ pattern earlier, Pattern.parse text = .ok pattern ∧ table.shadowing = .reject ∧
        table.coveredBy? pattern = some earlier ∧
          table.register text page =
            (.error (.shadowed pattern.text earlier.pattern.text), table)) ∨
      ∃ pattern, Pattern.parse text = .ok pattern ∧
        (table.shadowing = .reject → ¬ table.Covers pattern) ∧
          table.register text page = (.ok (), table.append ⟨pattern, page⟩) := by
  cases parsed : Pattern.parse text with
  | error reason => exact Or.inl ⟨reason, rfl, register_of_invalid table parsed page⟩
  | ok pattern =>
    by_cases admitted : table.shadowing = .reject → ¬ table.Covers pattern
    · exact Or.inr (Or.inr ⟨pattern, rfl, admitted, register_of_admitted parsed admitted page⟩)
    · obtain ⟨rejects, covered⟩ := Classical.not_imp.1 admitted
      obtain ⟨earlier, found⟩ := Option.ne_none_iff_exists'.1
        (mt (coveredBy?_eq_none_iff table pattern).1 covered)
      exact Or.inr (Or.inl ⟨pattern, earlier, rfl, rejects, found,
        register_of_shadowed rejects parsed found page⟩)

/-- A call that fails leaves the table as it was. -/
theorem table_of_register_error {table after : RouteTable} {text : String} {page : Page}
    {error : RouteError} (failed : table.register text page = (.error error, after)) :
    after = table := by
  rcases register_cases table text page with
    ⟨_, _, call⟩ | ⟨_, _, _, _, _, call⟩ | ⟨_, _, _, call⟩
  · exact (Prod.mk.inj (failed.symm.trans call)).2
  · exact (Prod.mk.inj (failed.symm.trans call)).2
  · cases failed.symm.trans call

/-- What a call makes of a table. -/
theorem attempt_cases (table : RouteTable) (declaration : Declaration) :
    (∃ reason, Pattern.parse declaration.pattern = .error reason ∧
        table.attempt declaration = table) ∨
      (∃ pattern, Pattern.parse declaration.pattern = .ok pattern ∧
        table.shadowing = .reject ∧ table.Covers pattern ∧ table.attempt declaration = table) ∨
      ∃ pattern, Pattern.parse declaration.pattern = .ok pattern ∧
        (table.shadowing = .reject → ¬ table.Covers pattern) ∧
        table.attempt declaration = table.append ⟨pattern, declaration.page⟩ := by
  rcases register_cases table declaration.pattern declaration.page with
    ⟨reason, invalid, call⟩ | ⟨pattern, earlier, parsed, rejects, found, call⟩ |
      ⟨pattern, parsed, admitted, call⟩
  · exact Or.inl ⟨reason, invalid, congrArg Prod.snd call⟩
  · have covers := List.find?_some found
    have covered : table.Covers pattern := ⟨earlier, List.mem_of_find?_eq_some found, covers⟩
    exact Or.inr (Or.inl ⟨pattern, parsed, rejects, covered, congrArg Prod.snd call⟩)
  · exact Or.inr (Or.inr ⟨pattern, parsed, admitted, congrArg Prod.snd call⟩)

theorem attempt_shadowing (table : RouteTable) (declaration : Declaration) :
    (table.attempt declaration).shadowing = table.shadowing := by
  rcases attempt_cases table declaration with
    ⟨_, _, same⟩ | ⟨_, _, _, _, same⟩ | ⟨_, _, _, appended⟩
  · rw [same]
  · rw [same]
  · rw [appended, append]

/-! ### Sequences of calls -/

/-- The table after a sequence of calls. -/
def attemptAll (table : RouteTable) (declarations : List Declaration) : RouteTable :=
  declarations.foldl attempt table

theorem attemptAll_cons (table : RouteTable) (declaration : Declaration)
    (rest : List Declaration) :
    table.attemptAll (declaration :: rest) = (table.attempt declaration).attemptAll rest := rfl

theorem attemptAll_shadowing (table : RouteTable) (declarations : List Declaration) :
    (table.attemptAll declarations).shadowing = table.shadowing := by
  induction declarations generalizing table with
  | nil => rfl
  | cons declaration rest inductionHypothesis =>
    rw [attemptAll_cons, inductionHypothesis, attempt_shadowing]

/-- What every table that calls can reach satisfies. -/
structure WellFormed (table : RouteTable) : Prop where
  patterns : ∀ route ∈ table.routes, route.pattern.WellFormed
  uncovered : table.shadowing = .reject →
    table.routes.Pairwise fun earlier later => earlier.pattern.covers later.pattern = false

theorem empty_wellFormed (shadowing : Shadowing) : (empty shadowing).WellFormed where
  patterns := fun _ member => absurd member List.not_mem_nil
  uncovered := fun _ => List.Pairwise.nil

theorem append_wellFormed {table : RouteTable} (wellFormed : table.WellFormed) {pattern : Pattern}
    (readable : pattern.WellFormed) (admitted : table.shadowing = .reject → ¬ table.Covers pattern)
    (page : Page) : (table.append ⟨pattern, page⟩).WellFormed where
  patterns := by
    intro route member
    rcases List.mem_append.1 member with old | new
    · exact wellFormed.patterns route old
    · rw [List.mem_singleton.1 new]
      exact readable
  uncovered := by
    intro rejects
    refine List.pairwise_append.2 ⟨wellFormed.uncovered rejects, List.pairwise_singleton _ _, ?_⟩
    intro earlier member later new
    rw [List.mem_singleton.1 new]
    exact Bool.eq_false_iff.2 fun covers => admitted rejects ⟨earlier, member, covers⟩

theorem attempt_wellFormed {table : RouteTable} (wellFormed : table.WellFormed)
    (declaration : Declaration) : (table.attempt declaration).WellFormed := by
  rcases attempt_cases table declaration with
    ⟨_, _, same⟩ | ⟨_, _, _, _, same⟩ | ⟨pattern, parsed, admitted, appended⟩
  · rw [same]
    exact wellFormed
  · rw [same]
    exact wellFormed
  · rw [appended]
    exact append_wellFormed wellFormed (Pattern.parse_ok parsed).1 admitted declaration.page

/-- Calls keep a table well formed. -/
theorem attemptAll_wellFormed {table : RouteTable} (wellFormed : table.WellFormed)
    (declarations : List Declaration) : (table.attemptAll declarations).WellFormed := by
  induction declarations generalizing table with
  | nil => exact wellFormed
  | cons declaration rest inductionHypothesis =>
    exact inductionHypothesis (attempt_wellFormed wellFormed declaration)

end Wayfinder.RouteTable
