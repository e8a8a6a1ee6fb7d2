/-
This file says what a registry holds and what building a shell checks. A registry that views were
registered in holds the last one for each page. A shell is built exactly when its routes can be
registered and every page that they or the fallback lead to has a view; it then holds what it was
built from and an empty history. When it is not built, the first thing that is missing in this
order is the reason. The views of the application cover every page, so with them only a route can
be the reason.
-/
import Wayfinder.Shell

namespace Wayfinder

namespace Registry

/-! ### The last view of a page -/

/-- Among views in the order of their registration, one is the last that renders a page. -/
def IsLast (views : List View) (page : Page) (view : View) : Prop :=
  ∃ earlier later, views = earlier ++ view :: later ∧ view.page = page ∧
    ∀ other ∈ later, other.page ≠ page

theorem contains_eq_isSome (registry : Registry) (page : Page) :
    registry.contains page = (registry.get? page).isSome := by
  rw [contains, get?, Option.isSome_map, List.isSome_find?]

theorem get?_register (registry : Registry) (view : View) (page : Page) :
    (registry.register view).get? page =
      if view.page = page then some view else registry.get? page := by
  rw [get?, register, List.find?_cons]
  by_cases same : view.page = page
  · rw [if_pos same, decide_eq_true same]
    rfl
  · rw [if_neg same, decide_eq_false same, List.find?_filter, get?]
    refine congrArg (fun wanted => (registry.entries.find? wanted).map Prod.snd)
      (funext fun entry => ?_)
    by_cases here : entry.1 = page
    · simp [here, Ne.symm same]
    · simp [here]

theorem get?_registerAll (registry : Registry) (views : List View) (page : Page) :
    (registry.registerAll views).get? page =
      (views.reverse.find? (·.page = page)).or (registry.get? page) := by
  induction views generalizing registry with
  | nil => rfl
  | cons view rest inductionHypothesis =>
    show ((registry.register view).registerAll rest).get? page = _
    rw [inductionHypothesis, get?_register, List.reverse_cons, List.find?_append, Option.or_assoc,
      List.find?_singleton]
    by_cases same : view.page = page <;> simp [same]

theorem get?_registerAll_empty (views : List View) (page : Page) :
    (empty.registerAll views).get? page = views.reverse.find? (·.page = page) :=
  (get?_registerAll empty views page).trans Option.or_none

/-- What a registry holds for a page is the last view that was registered for it. -/
theorem get?_registerAll_eq_some_iff (views : List View) (page : Page) (view : View) :
    (empty.registerAll views).get? page = some view ↔ IsLast views page view := by
  rw [get?_registerAll_empty, List.find?_eq_some_iff_append, decide_eq_true_eq]
  constructor
  · rintro ⟨same, later, earlier, reversed, others⟩
    refine ⟨earlier.reverse, later.reverse, ?_, same, fun other member => ?_⟩
    · rw [← List.reverse_reverse views, reversed, List.reverse_append, List.reverse_cons,
        List.append_assoc, List.singleton_append]
    · simpa using others other (List.mem_reverse.1 member)
  · rintro ⟨earlier, later, rfl, same, others⟩
    refine ⟨same, later.reverse, earlier.reverse, ?_, fun other member => ?_⟩
    · rw [List.reverse_append, List.reverse_cons, List.append_assoc, List.singleton_append]
    · simpa using others other (List.mem_reverse.1 member)

/-- A page has a view among those that were registered. -/
def HasView (views : List View) (page : Page) : Prop :=
  ∃ view ∈ views, view.page = page

theorem contains_registerAll_iff (views : List View) (page : Page) :
    (empty.registerAll views).contains page = true ↔ HasView views page := by
  rw [contains_eq_isSome, get?_registerAll_empty, List.find?_isSome]
  simp only [List.mem_reverse, decide_eq_true_eq, HasView]

/-- The views of the application are those that are registered first in the standard registry. -/
theorem standard_registerAll (views : List View) :
    standard.registerAll views = empty.registerAll (standardViews ++ views) :=
  List.foldl_append.symm

/-- The views of the application cover every page. -/
theorem hasView_standardViews (page : Page) : HasView standardViews page := by
  rcases List.mem_append.1 (Page.mem_all page) with active | other
  · have covered : ∀ page ∈ Page.active, page ∈ standardViews.map View.page := by decide
    exact List.mem_map.1 (covered page active)
  · rcases List.mem_cons.1 other with rfl | planned
    · exact ⟨.notFound, by simp [standardViews], rfl⟩
    · refine ⟨.placeholder (Placeholder.comingSoon page), ?_, rfl⟩
      exact List.mem_append_right _ (List.mem_map_of_mem planned)

end Registry

namespace Shell

/-! ### Building -/

theorem firstMissing?_eq_none_iff (registry : Registry) (pages : List Page) :
    firstMissing? registry pages = none ↔ ∀ page ∈ pages, (registry.get? page).isSome = true := by
  simp only [firstMissing?, List.find?_eq_none, Bool.not_eq_true', Bool.not_eq_false,
    Registry.contains_eq_isSome]

/-- What a shell that was built holds, and what was checked about it. -/
structure Built (config : Config) (registry : Registry) (context : AppContext)
    (supply : StampSupply) (shell : Shell) : Prop where
  table : RouteTable.withBacklog config.routing.shadowing config.routing.backlog = .ok shell.table
  routed : ∀ route ∈ shell.table.routes, (registry.get? route.page).isSome = true
  covered : ∀ page, fallbackPage config.routing.fallback = some page →
    (registry.get? page).isSome = true
  state : shell =
    { table := shell.table
      fallback := config.routing.fallback
      chromePolicy := config.chrome.policy
      chromeLinks := config.chrome.links
      registry := registry
      context := context
      history := History.ofCapacity config.history.capacity
      supply := supply }

theorem forall_needed_iff (table : RouteTable) (fallback : Fallback) (wanted : Page → Prop) :
    (∀ page ∈ table.routes.map Route.page ++ (fallbackPage fallback).toList, wanted page) ↔
      (∀ route ∈ table.routes, wanted route.page) ∧
        ∀ page, fallbackPage fallback = some page → wanted page := by
  rw [List.forall_mem_append, List.forall_mem_map]
  simp only [Option.mem_toList]

/-- Building succeeds exactly when what it checks holds. -/
theorem build_eq_ok_iff (config : Config) (registry : Registry) (context : AppContext)
    (supply : StampSupply) (shell : Shell) :
    build config registry context supply = .ok shell ↔
      Built config registry context supply shell := by
  constructor
  · intro built
    unfold build at built
    split at built
    · cases built
    · next table registered =>
      simp only at built
      split at built
      · cases built
      · next complete =>
        cases built
        rw [firstMissing?_eq_none_iff, forall_needed_iff] at complete
        exact ⟨registered, complete.1, complete.2, rfl⟩
  · rintro ⟨registered, routed, covered, state⟩
    have complete : firstMissing? registry (shell.table.routes.map Route.page ++
        (fallbackPage config.routing.fallback).toList) = none :=
      (firstMissing?_eq_none_iff _ _).2 ((forall_needed_iff _ _ _).2 ⟨routed, covered⟩)
    rw [build, registered]
    simp only [complete]
    exact congrArg Except.ok state.symm

/-! ### Failing -/

/-- Why a shell is not built from a configuration and registered views: a route that cannot be
registered; else the first route whose page has no view; else a fallback without a view. -/
inductive Refusal (config : Config) (views : List View) : ShellError → Prop where
  | route {error : RouteError}
      (refused : RouteTable.withBacklog config.routing.shadowing config.routing.backlog =
        .error error) :
      Refusal config views (.route error)
  | page {table : RouteTable} {before after : List Route} {route : Route}
      (registered : RouteTable.withBacklog config.routing.shadowing config.routing.backlog =
        .ok table)
      (split : table.routes = before ++ route :: after)
      (shown : ∀ earlier ∈ before, Registry.HasView views earlier.page)
      (missing : ¬ Registry.HasView views route.page) :
      Refusal config views (.view ⟨route.page⟩)
  | fallback {table : RouteTable}
      (registered : RouteTable.withBacklog config.routing.shadowing config.routing.backlog =
        .ok table)
      (shown : ∀ route ∈ table.routes, Registry.HasView views route.page)
      (mode : config.routing.fallback = .notFound)
      (missing : ¬ Registry.HasView views .notFound) :
      Refusal config views (.view ⟨.notFound⟩)

theorem firstMissing?_registerAll_eq_none_iff (views : List View) (pages : List Page) :
    firstMissing? (Registry.empty.registerAll views) pages = none ↔
      ∀ page ∈ pages, Registry.HasView views page := by
  simp only [firstMissing?, List.find?_eq_none, Bool.not_eq_true', Bool.not_eq_false,
    Registry.contains_registerAll_iff]

theorem firstMissing?_registerAll_eq_some_iff (views : List View) (pages : List Page)
    (page : Page) :
    firstMissing? (Registry.empty.registerAll views) pages = some page ↔
      ¬ Registry.HasView views page ∧ ∃ before after, pages = before ++ page :: after ∧
        ∀ earlier ∈ before, Registry.HasView views earlier := by
  simp only [firstMissing?, List.find?_eq_some_iff_append, Bool.not_not,
    Registry.contains_registerAll_iff, Bool.not_eq_true', ← Bool.not_eq_true]

/-- The first page that a route leads to without a view is that of the first such route. -/
theorem firstMissing?_routes_eq_some_iff (views : List View) (routes : List Route) (page : Page) :
    firstMissing? (Registry.empty.registerAll views) (routes.map Route.page) = some page ↔
      ∃ before route after, routes = before ++ route :: after ∧ route.page = page ∧
        (∀ earlier ∈ before, Registry.HasView views earlier.page) ∧
          ¬ Registry.HasView views page := by
  rw [firstMissing?_registerAll_eq_some_iff]
  constructor
  · rintro ⟨missing, pagesBefore, pagesAfter, split, shown⟩
    obtain ⟨before, others, rfl, rfl, rest⟩ := List.map_eq_append_iff.1 split
    obtain ⟨route, after, rfl, renders, _⟩ := List.map_eq_cons_iff.1 rest
    exact ⟨before, route, after, rfl, renders, List.forall_mem_map.1 shown, missing⟩
  · rintro ⟨before, route, after, rfl, rfl, shown, missing⟩
    exact ⟨missing, before.map Route.page, after.map Route.page, by simp,
      List.forall_mem_map.2 shown⟩

theorem firstMissing?_fallback_eq_some_iff (views : List View) (fallback : Fallback)
    (page : Page) :
    firstMissing? (Registry.empty.registerAll views) (fallbackPage fallback).toList = some page ↔
      fallback = .notFound ∧ page = .notFound ∧ ¬ Registry.HasView views .notFound := by
  cases fallback with
  | notFound =>
    rw [fallbackPage, Option.toList_some, firstMissing?, List.find?_singleton,
      ← Registry.contains_registerAll_iff]
    cases (Registry.empty.registerAll views).contains .notFound <;> simp [eq_comm]
  | blank => simp [fallbackPage, firstMissing?]

/-- With a table, building fails at the first page without a view. -/
theorem build_of_table {config : Config} {table : RouteTable}
    (registered : RouteTable.withBacklog config.routing.shadowing config.routing.backlog =
      .ok table) (registry : Registry) (context : AppContext) (supply : StampSupply)
    (error : ShellError) :
    build config registry context supply = .error error ↔
      ∃ page, error = .view ⟨page⟩ ∧
        (firstMissing? registry (table.routes.map Route.page)).or
          (firstMissing? registry (fallbackPage config.routing.fallback).toList) = some page := by
  rw [build, registered, firstMissing?, firstMissing?, ← List.find?_append, ← firstMissing?]
  dsimp only
  split
  · next page missing => simp [missing, eq_comm]
  · next complete => simp [complete]

/-- Building fails exactly with a reason that keeps the shell from being built. -/
theorem build_eq_error_iff (config : Config) (views : List View) (context : AppContext)
    (supply : StampSupply) (error : ShellError) :
    build config (Registry.empty.registerAll views) context supply = .error error ↔
      Refusal config views error := by
  cases registered : RouteTable.withBacklog config.routing.shadowing config.routing.backlog with
  | error cause =>
    rw [build, registered]
    constructor
    · rintro ⟨⟩
      exact .route registered
    · rintro (refused | registeredToo | registeredToo)
      · cases registered.symm.trans refused
        rfl
      · cases registered.symm.trans registeredToo
      · cases registered.symm.trans registeredToo
  | ok table =>
    rw [build_of_table registered]
    simp only [Option.or_eq_some_iff, firstMissing?_routes_eq_some_iff,
      firstMissing?_registerAll_eq_none_iff, List.forall_mem_map,
      firstMissing?_fallback_eq_some_iff]
    constructor
    · rintro ⟨page, rfl, ⟨before, route, after, split, rfl, shown, missing⟩ |
        ⟨shown, mode, rfl, missing⟩⟩
      · exact .page registered split shown missing
      · exact .fallback registered shown mode missing
    · rintro (refused | ⟨registeredToo, split, shown, missing⟩ |
        ⟨registeredToo, shown, mode, missing⟩)
      · cases registered.symm.trans refused
      · cases registered.symm.trans registeredToo
        exact ⟨_, rfl, Or.inl ⟨_, _, _, split, rfl, shown, missing⟩⟩
      · cases registered.symm.trans registeredToo
        exact ⟨_, rfl, Or.inr ⟨shown, mode, rfl, missing⟩⟩

/-- With views for all pages, only a route can keep a shell from being built. -/
theorem refusal_iff_of_covering {config : Config} {views : List View}
    (covering : ∀ page, Registry.HasView views page) (error : ShellError) :
    Refusal config views error ↔ ∃ cause, error = .route cause ∧
      RouteTable.withBacklog config.routing.shadowing config.routing.backlog = .error cause := by
  constructor
  · rintro (refused | ⟨_, _, _, missing⟩ | ⟨_, _, _, missing⟩)
    · exact ⟨_, rfl, refused⟩
    · exact absurd (covering _) missing
    · exact absurd (covering _) missing
  · rintro ⟨cause, rfl, refused⟩
    exact .route refused

/-- What building a shell comes to, whatever views were registered. It fails exactly with a reason
that keeps the shell from being built, and if there is none it gives a shell with the table of the
configuration and an empty history. When the views of the application were registered first, it
fails exactly when the table cannot be made, with the error of the table. -/
theorem build_outcome (config : Config) (views : List View) (context : AppContext)
    (supply : StampSupply) :
    (∀ error, build config (Registry.empty.registerAll views) context supply = .error error ↔
        Refusal config views error) ∧
      ((∃ error, Refusal config views error) ∨
        ∃ shell, build config (Registry.empty.registerAll views) context supply = .ok shell ∧
          RouteTable.withBacklog config.routing.shadowing config.routing.backlog =
              .ok shell.table ∧
            shell.history.isEmpty = true) ∧
      ∀ error, build config (Registry.standard.registerAll views) context supply =
          .error error ↔
        ∃ cause, error = .route cause ∧
          RouteTable.withBacklog config.routing.shadowing config.routing.backlog =
            .error cause := by
  refine ⟨build_eq_error_iff config views context supply, ?_, fun error => ?_⟩
  · cases outcome : build config (Registry.empty.registerAll views) context supply with
    | error error =>
      exact Or.inl ⟨error, (build_eq_error_iff config views context supply error).1 outcome⟩
    | ok shell =>
      have built := (build_eq_ok_iff config _ context supply shell).1 outcome
      have history : shell.history = History.ofCapacity config.history.capacity :=
        congrArg Shell.history built.state
      exact Or.inr ⟨shell, rfl, built.table, by rw [history]; rfl⟩
  · have covering : ∀ page, Registry.HasView (Registry.standardViews ++ views) page := by
      intro page
      obtain ⟨view, member, renders⟩ := Registry.hasView_standardViews page
      exact ⟨view, List.mem_append_left views member, renders⟩
    rw [Registry.standard_registerAll, build_eq_error_iff, refusal_iff_of_covering covering]

end Shell

end Wayfinder
