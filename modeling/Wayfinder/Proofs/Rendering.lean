/-
This file proves that every screen agrees with the table, the fallback and the registry of its
shell. A screen shows the page of the first route that matches, or the page of the fallback, and
never a page without its content: what is checked when a shell is built covers every page that a
path can lead to. The content is what the last registered view of the page renders.
-/
import Wayfinder.Proofs.Building
import Wayfinder.Proofs.Shadowing

namespace Wayfinder

/-! ### Resolving -/

namespace RouteTable

/-- A table resolves no path that none of its routes matches. -/
theorem resolve_eq_none_iff (table : RouteTable) (path : String) :
    table.resolve path = none ↔ ∀ route ∈ table.routes, route.pattern.match? path = none := by
  simp only [resolve, List.findSome?_eq_none_iff, Option.map_eq_none_iff]

/-- A path that some route matches selects one. -/
theorem exists_selects {table : RouteTable} {path : String} {route : Route}
    (member : route ∈ table.routes) (matched : (route.pattern.match? path).isSome = true) :
    ∃ index, table.Selects path index := by
  obtain ⟨found, resolved⟩ := Option.ne_none_iff_exists'.1 fun unresolved =>
    Option.isSome_iff_ne_none.1 matched ((resolve_eq_none_iff table path).1 unresolved route member)
  obtain ⟨before, first, rest, routes, captured, unmatched⟩ :=
    List.findSome?_eq_some_iff.1 resolved
  obtain ⟨parameters, capturedFirst, _⟩ := Option.map_eq_some_iff.1 captured
  have bound : before.length < table.routes.length := by
    rw [routes, List.length_append, List.length_cons]
    omega
  have here : table.routes[before.length] = first := by
    simp only [routes, List.getElem_append_right (Nat.le_refl _), Nat.sub_self,
      List.getElem_cons_zero]
  refine ⟨⟨before.length, bound⟩, ?_, fun earlier less => ?_⟩
  · show (table.routes[before.length].pattern.match? path).isSome = true
    rw [here, capturedFirst]
    rfl
  · have inside : earlier.val < before.length := less
    have there : table.routes[earlier] = before[earlier.val] := by
      show table.routes[earlier.val] = _
      simp only [routes, List.getElem_append_left inside]
    rw [there]
    exact Option.map_eq_none_iff.1 (unmatched _ (List.getElem_mem inside))

end RouteTable

namespace Shell

/-! ### The parts of a screen -/

/-- The screen at a path that selects a route is that of the route. -/
theorem screenAt_of_selects {shell : Shell} {path : String}
    {index : Fin shell.table.routes.length} (selects : shell.table.Selects path index) :
    ∃ parameters, shell.table.routes[index].pattern.match? path = some parameters ∧
      shell.screenAt path =
        shell.screenOf path (some shell.table.routes[index].pattern.text)
          (some shell.table.routes[index].page) parameters := by
  obtain ⟨parameters, captured, resolved⟩ := RouteTable.resolve_of_selects selects
  exact ⟨parameters, captured, by rw [screenAt, resolved]⟩

/-- The screen at a path that no route matches is that of the fallback. -/
theorem screenAt_of_unmatched {shell : Shell} {path : String}
    (unmatched : ∀ route ∈ shell.table.routes, route.pattern.match? path = none) :
    shell.screenAt path = shell.screenOf path none (fallbackPage shell.fallback) TextMap.empty := by
  rw [screenAt, (RouteTable.resolve_eq_none_iff shell.table path).2 unmatched]

/-- Every screen is made of a pathname, a pattern, a page and parameters, and its page is that of
a route or of the fallback. -/
theorem screenAt_cases (shell : Shell) (path : String) :
    ∃ pattern page parameters, shell.screenAt path = shell.screenOf path pattern page parameters ∧
      ((∃ route ∈ shell.table.routes, page = some route.page) ∨
        page = fallbackPage shell.fallback) := by
  by_cases unmatched : ∀ route ∈ shell.table.routes, route.pattern.match? path = none
  · exact ⟨_, _, _, screenAt_of_unmatched unmatched, Or.inr rfl⟩
  · simp only [not_forall] at unmatched
    obtain ⟨route, member, matched⟩ := unmatched
    obtain ⟨index, selects⟩ :=
      RouteTable.exists_selects member (Option.isSome_iff_ne_none.2 matched)
    obtain ⟨parameters, _, shown⟩ := screenAt_of_selects selects
    exact ⟨_, _, parameters, shown, Or.inl ⟨_, List.getElem_mem index.isLt, rfl⟩⟩

theorem screenAt_pathname (shell : Shell) (path : String) :
    (shell.screenAt path).pathname = path := by
  obtain ⟨pattern, page, parameters, screen, _⟩ := screenAt_cases shell path
  rw [screen]
  rfl

/-- The content of a screen is what the view of its page renders. -/
theorem screenAt_content (shell : Shell) (path : String) :
    (shell.screenAt path).content =
      ((shell.screenAt path).page.bind shell.registry.get?).map
        (·.render ⟨path, (shell.screenAt path).parameters, shell.context⟩) := by
  obtain ⟨pattern, page, parameters, screen, _⟩ := screenAt_cases shell path
  rw [screen]
  rfl

/-- The chrome of a screen is the frame around its page, where the policy shows it. -/
theorem screenAt_chrome (shell : Shell) (path : String) :
    (shell.screenAt path).chrome =
      if shell.chromePolicy.shows path then
        some (Chrome.frame shell.chromeLinks path (shell.screenAt path).page shell.context)
      else none := by
  obtain ⟨pattern, page, parameters, screen, _⟩ := screenAt_cases shell path
  rw [screen]
  rfl

/-- A screen has chrome exactly where the policy shows it. -/
theorem screenAt_chrome_isSome (shell : Shell) (path : String) :
    (shell.screenAt path).chrome.isSome = shell.chromePolicy.shows path := by
  rw [screenAt_chrome]
  cases shell.chromePolicy.shows path <;> rfl

/-! ### The screens of a shell that was built -/

section Checked

variable {config : Config} {registry : Registry} {context : AppContext} {supply : StampSupply}
  {shell : Shell}

/-- A page on a screen has a view. -/
theorem exists_view_of_page (built : Built config registry context supply shell)
    {path : String} {page : Page} (shown : (shell.screenAt path).page = some page) :
    ∃ view, registry.get? page = some view := by
  obtain ⟨pattern, page?, parameters, screen, origin⟩ := screenAt_cases shell path
  rw [screen] at shown
  have same : page? = some page := shown
  refine Option.isSome_iff_exists.1 ?_
  rcases origin with ⟨route, member, routed⟩ | fallback
  · rw [same] at routed
    cases routed
    exact built.routed route member
  · have setting : shell.fallback = config.routing.fallback := congrArg Shell.fallback built.state
    rw [same, setting] at fallback
    exact built.covered page fallback.symm

/-- A page on a screen has content, which its view renders. -/
theorem exists_content_of_page (built : Built config registry context supply shell)
    {path : String} {page : Page} (shown : (shell.screenAt path).page = some page) :
    ∃ view, registry.get? page = some view ∧ (shell.screenAt path).content =
      some (view.render ⟨path, (shell.screenAt path).parameters, context⟩) := by
  have held : shell.registry = registry := congrArg Shell.registry built.state
  have shared : shell.context = context := congrArg Shell.context built.state
  obtain ⟨view, found⟩ := exists_view_of_page built shown
  refine ⟨view, found, ?_⟩
  rw [screenAt_content, shown, Option.bind_some, held, found, Option.map_some, shared]

/-- A screen has content exactly when it has a page. -/
theorem screenAt_content_isSome (built : Built config registry context supply shell)
    (path : String) :
    (shell.screenAt path).content.isSome = (shell.screenAt path).page.isSome := by
  cases shown : (shell.screenAt path).page with
  | none => rw [screenAt_content, shown]; rfl
  | some page =>
    obtain ⟨view, _, content⟩ := exists_content_of_page built shown
    rw [content]
    rfl

end Checked

/-! ### Whole screens -/

/-- Every screen agrees with the table, the fallback and the registry of its shell. It shows the
first route that matches its pathname with what that route captures, or else the fallback; it has
content exactly when it has a page, and that is what the last view registered for the page
renders; and it has chrome exactly where the policy shows it. -/
theorem render_consistent {config : Config} {views : List View} {context : AppContext}
    {supply : StampSupply} {shell : Shell}
    (built : build config (Registry.empty.registerAll views) context supply = .ok shell)
    (link : String) :
    let screen := shell.render link
    RouteTable.withBacklog config.routing.shadowing config.routing.backlog = .ok shell.table ∧
      screen.pathname = (Location.parse link).pathname ∧
      ((∃ route ∈ shell.table.routes, (route.pattern.match? screen.pathname).isSome = true) →
        ∃ index, shell.table.Selects screen.pathname index ∧
          screen.pattern = some shell.table.routes[index].pattern.text ∧
          screen.page = some shell.table.routes[index].page ∧
          shell.table.routes[index].pattern.match? screen.pathname = some screen.parameters) ∧
      ((∀ route ∈ shell.table.routes, route.pattern.match? screen.pathname = none) →
        screen.pattern = none ∧ screen.parameters = TextMap.empty ∧
          (config.routing.fallback = .notFound → screen.page = some .notFound) ∧
          (config.routing.fallback = .blank → screen.page = none)) ∧
      (screen.content.isSome = true ↔ screen.page.isSome = true) ∧
      (∀ page, screen.page = some page → ∃ view, Registry.IsLast views page view ∧
        screen.content = some (view.render ⟨screen.pathname, screen.parameters, context⟩)) ∧
      (screen.chrome.isSome = true ↔ config.chrome.policy.shows screen.pathname = true) := by
  intro screen
  have checked := (build_eq_ok_iff config _ context supply shell).1 built
  have pathname : screen.pathname = (Location.parse link).pathname := screenAt_pathname shell _
  rw [pathname]
  refine ⟨checked.table, rfl, ?_, fun unmatched => ?_, ?_, fun page shown => ?_, ?_⟩
  · rintro ⟨route, member, matched⟩
    obtain ⟨index, selects⟩ := RouteTable.exists_selects member matched
    obtain ⟨parameters, captured, routed⟩ := screenAt_of_selects selects
    refine ⟨index, selects, congrArg Screen.pattern routed, congrArg Screen.page routed, ?_⟩
    rw [captured]
    exact congrArg some (congrArg Screen.parameters routed).symm
  · have fallback : shell.fallback = config.routing.fallback :=
      congrArg Shell.fallback checked.state
    have blank := screenAt_of_unmatched unmatched
    rw [fallback] at blank
    refine ⟨congrArg Screen.pattern blank, congrArg Screen.parameters blank, ?_, ?_⟩
    · exact fun mode => (congrArg Screen.page blank).trans (mode ▸ rfl)
    · exact fun mode => (congrArg Screen.page blank).trans (mode ▸ rfl)
  · exact Bool.eq_iff_iff.1 (screenAt_content_isSome checked _)
  · obtain ⟨view, found, rendered⟩ := exists_content_of_page checked shown
    exact ⟨view, (Registry.get?_registerAll_eq_some_iff views page view).1 found, rendered⟩
  · have policy : shell.chromePolicy = config.chrome.policy :=
      congrArg Shell.chromePolicy checked.state
    rw [← policy]
    exact Bool.eq_iff_iff.1 (screenAt_chrome_isSome shell _)

/-- A view that is registered later renders its page in the place of the standard one. -/
theorem render_consistent_later_view :
    let views := Registry.standardViews ++ [View.placeholder (Placeholder.comingSoon .portfolio)]
    let context : AppContext := ⟨default, "TradeDesk", TextMap.empty⟩
    ∃ shell, build {} (Registry.empty.registerAll views) context { stamp := fun _ => default } =
        .ok shell ∧
      let screen := shell.render "/acct-1/portfolio?tab=holdings"
      screen.page = some .portfolio ∧ ∃ view, Registry.IsLast views .portfolio view ∧
        screen.content = some (view.render ⟨screen.pathname, screen.parameters, context⟩) := by
  intro views context
  obtain ⟨shell, built, page⟩ : ∃ shell,
      build {} (Registry.empty.registerAll views) context { stamp := fun _ => default } =
        .ok shell ∧
      (shell.render "/acct-1/portfolio?tab=holdings").page = some .portfolio := by
    refine ⟨_, rfl, ?_⟩
    decide +kernel
  exact ⟨shell, built, page, (render_consistent built _).2.2.2.2.2.1 .portfolio page⟩

end Shell

end Wayfinder
