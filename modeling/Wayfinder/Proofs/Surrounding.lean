/-
This file proves that chrome follows the pathname and not the route. Whether a page has chrome is
decided by the policy and the pathname, and the frame is made of the links, the pathname and the
title of the application; of the page it takes the title only. So two shells that agree on these
surround every page alike, wherever their routes lead. It also proves that no page with parameters
has chrome when the policy lists short paths only: a declared route with a parameter has a second
segment, and therefore so has every path that it matches.
-/
import Wayfinder.Proofs.Identifying

namespace Wayfinder

/-- Two frames agree when only the title of the page can tell them apart. -/
structure ChromeFrame.Agrees (first second : ChromeFrame) : Prop where
  sideNavigation : first.sideNavigation = second.sideNavigation
  appTitle : first.header.appTitle = second.header.appTitle

/-! ### Policies and frames -/

namespace Chrome

/-- A policy that shows chrome for listed paths shows it for those and no others. -/
theorem shows_of_pathGated {policy : Policy} (gated : policy.mode = .pathGated)
    (pathname : String) : policy.shows pathname = true ↔ pathname ∈ policy.paths := by
  rw [Policy.shows, gated]
  exact List.contains_iff_mem

/-- Only the mode of a policy and the set of its paths count. -/
theorem shows_congr {first second : Policy} (sameMode : first.mode = second.mode)
    (samePaths : ∀ path, path ∈ first.paths ↔ path ∈ second.paths) (pathname : String) :
    first.shows pathname = second.shows pathname := by
  cases mode : second.mode with
  | pathGated =>
    rw [Bool.eq_iff_iff, shows_of_pathGated (sameMode.trans mode), shows_of_pathGated mode]
    exact samePaths pathname
  | always => rw [Policy.shows, Policy.shows, sameMode, mode]
  | never => rw [Policy.shows, Policy.shows, sameMode, mode]

/-- Frames with the same links, at the same pathname and with the same title of the application
agree around any two pages. -/
theorem frame_agrees (links : List Link) (pathname : String) (first second : Option Page)
    {one other : AppContext} (sameTitle : one.appTitle = other.appTitle) :
    (frame links pathname first one).Agrees (frame links pathname second other) :=
  ⟨rfl, sameTitle⟩

end Chrome

namespace Shell

/-- Shells whose policies show chrome alike, with the same links and the same title of the
application, surround the page at a path alike. -/
theorem screenAt_chrome_agrees {one other : Shell} {path : String}
    (sameShows : one.chromePolicy.shows path = other.chromePolicy.shows path)
    (sameLinks : one.chromeLinks = other.chromeLinks)
    (sameTitle : one.context.appTitle = other.context.appTitle) :
    Option.Rel ChromeFrame.Agrees (one.screenAt path).chrome (other.screenAt path).chrome := by
  rw [screenAt_chrome, screenAt_chrome, sameShows, sameLinks]
  split
  · exact .some (Chrome.frame_agrees other.chromeLinks path _ _ sameTitle)
  · exact .none

/-- When chrome is shown for listed paths only, a link leads to it exactly when its pathname is
listed. -/
theorem Built.hasChrome_iff {config : Config} {registry : Registry} {context : AppContext}
    {supply : StampSupply} {shell : Shell} (built : Built config registry context supply shell)
    (gated : config.chrome.mode = .pathGated) (link : String) :
    (shell.render link).hasChrome = true ↔
      (Location.parse link).pathname ∈ config.chrome.paths := by
  have policy : shell.chromePolicy = config.chrome.policy :=
    congrArg Shell.chromePolicy built.state
  rw [Screen.hasChrome, render, screenAt_chrome_isSome, policy]
  exact Chrome.shows_of_pathGated gated _

/-- Chrome does not depend on routing. Take two configurations with which shells can be built, from
any views and with contexts of the same title, that agree on the mode, the links and the set of
paths of the chrome. Every link leads both shells to pages with chrome that agrees, or both to pages
without; and if chrome is shown for listed paths only, it is there exactly when the pathname is
listed. -/
theorem render_chrome_agrees {one other : Config} {oneRegistry otherRegistry : Registry}
    {oneContext otherContext : AppContext} {oneSupply otherSupply : StampSupply}
    {oneShell otherShell : Shell}
    (builtOne : build one oneRegistry oneContext oneSupply = .ok oneShell)
    (builtOther : build other otherRegistry otherContext otherSupply = .ok otherShell)
    (sameTitle : oneContext.appTitle = otherContext.appTitle)
    (sameMode : one.chrome.mode = other.chrome.mode)
    (sameLinks : one.chrome.links = other.chrome.links)
    (samePaths : ∀ path, path ∈ one.chrome.paths ↔ path ∈ other.chrome.paths) (link : String) :
    let first := oneShell.render link
    let second := otherShell.render link
    let pathname := (Location.parse link).pathname
    Option.Rel ChromeFrame.Agrees first.chrome second.chrome ∧
      (one.chrome.mode = .pathGated →
        (first.hasChrome = true ↔ pathname ∈ one.chrome.paths) ∧
          (second.hasChrome = true ↔ pathname ∈ one.chrome.paths)) := by
  intro first second pathname
  have checkedOne := (build_eq_ok_iff one _ _ _ oneShell).1 builtOne
  have checkedOther := (build_eq_ok_iff other _ _ _ otherShell).1 builtOther
  refine ⟨?_, fun gated => ⟨checkedOne.hasChrome_iff gated link, ?_⟩⟩
  · refine screenAt_chrome_agrees ?_ ?_ ?_ <;> rw [checkedOne.state, checkedOther.state]
    · exact Chrome.shows_congr sameMode samePaths _
    · exact sameLinks
    · exact sameTitle
  · rw [samePaths]
    exact checkedOther.hasChrome_iff (sameMode.symm.trans gated) link

/-- Two shells with different routes, views and histories surround a page alike. The second one
lists the same paths in another order and one of them twice, and knows no page at the pathname. -/
theorem render_chrome_agrees_wallet :
    let one : Config := { routing := { backlog := ["wallet"] } }
    let other : Config :=
      { routing := { fallback := .blank, shadowing := .reject }
        chrome := { paths := ["/setting", "/wallet", "/home", "/support", "/wallet"] }
        history := { capacity := 1 } }
    let context : AppContext := ⟨⟨⟨1⟩, default⟩, "Desk", TextMap.empty⟩
    let otherContext : AppContext := ⟨⟨⟨2⟩, default⟩, "Desk", TextMap.empty⟩
    let otherViews := Page.active.map fun page => View.placeholder (Placeholder.comingSoon page)
    let supply : StampSupply := { stamp := fun _ => default }
    (∀ path, path ∈ one.chrome.paths ↔ path ∈ other.chrome.paths) ∧
      ∃ shell otherShell, build one Registry.standard context supply = .ok shell ∧
        build other (Registry.empty.registerAll otherViews) otherContext supply =
          .ok otherShell ∧
        Option.Rel ChromeFrame.Agrees (shell.render "/wallet?tab=cards").chrome
          (otherShell.render "/wallet?tab=cards").chrome ∧
        (shell.render "/wallet?tab=cards").hasChrome = true ∧
        (otherShell.render "/wallet?tab=cards").hasChrome = true := by
  intro one other context otherContext otherViews supply
  have samePaths : ∀ path, path ∈ one.chrome.paths ↔ path ∈ other.chrome.paths := by
    have within : one.chrome.paths ⊆ other.chrome.paths := by decide
    have without : other.chrome.paths ⊆ one.chrome.paths := by decide
    exact fun path => ⟨(within ·), (without ·)⟩
  obtain ⟨shell, built⟩ : ∃ shell, build one Registry.standard context supply = .ok shell :=
    ⟨_, rfl⟩
  obtain ⟨otherShell, otherBuilt⟩ : ∃ shell,
      build other (Registry.empty.registerAll otherViews) otherContext supply = .ok shell :=
    ⟨_, rfl⟩
  obtain ⟨agrees, listed⟩ :=
    render_chrome_agrees built otherBuilt rfl rfl rfl samePaths "/wallet?tab=cards"
  have wallet : (Location.parse "/wallet?tab=cards").pathname ∈ one.chrome.paths := by decide
  obtain ⟨first, second⟩ := listed rfl
  exact ⟨samePaths, shell, otherShell, built, otherBuilt, agrees, first.2 wallet, second.2 wallet⟩

end Shell

/-! ### Pages with parameters -/

namespace Pattern

/-- A path that matches has as many segments as the pattern. -/
theorem length_split_of_match? {pattern : Pattern} {path : String} {parameters : TextMap}
    (matched : pattern.match? path = some parameters) :
    (Path.split path).length = pattern.segments.length :=
  ((match?_isSome_iff pattern path).1 (Option.isSome_of_eq_some matched)).length_eq.symm

/-- A pattern without parameters captures none. -/
theorem eq_empty_of_match? {pattern : Pattern} (unnamed : pattern.parameterNames = [])
    {path : String} {parameters : TextMap} (matched : pattern.match? path = some parameters) :
    parameters = TextMap.empty := by
  have distinct : pattern.parameterNames.Nodup := unnamed ▸ List.nodup_nil
  obtain ⟨names, _, _⟩ := capture_eq_some distinct matched
  refine TextMap.ext_get? fun name => (TextMap.get?_eq_none_iff parameters name).2 ?_
  rw [names, show namesOf pattern.segments = [] from unnamed]
  exact List.not_mem_nil

end Pattern

namespace Catalogue

/-- A declared route with a parameter has at least one more segment. -/
theorem one_lt_length_of_parameter :
    ∀ pattern ∈ activePatterns ++ plannedPatterns.map Prod.snd,
      pattern.parameterNames ≠ [] → 1 < pattern.segments.length := by
  decide

end Catalogue

namespace Shell

/-- A page with parameters is at a path with at least two segments. -/
theorem one_lt_length_split_of_parameters {shell : Shell} {shadowing : Shadowing}
    {keys : List String} (table : shell.table = RouteTable.backlogTable shadowing keys)
    {path : String} (parameterized : (shell.screenAt path).parameters ≠ TextMap.empty) :
    1 < (Path.split path).length := by
  rw [screenAt, table] at parameterized
  split at parameterized
  · next found resolved =>
    obtain ⟨declaration, origin, leads⟩ := RouteTable.exists_declaration_of_resolve resolved
    obtain ⟨read, matched⟩ := (Declaration.lead?_eq_some_iff _ _ _).1 leads
    have declared : found.route.pattern ∈
        Catalogue.activePatterns ++ Catalogue.plannedPatterns.map Prod.snd := by
      have parsed := Declaration.parse_of_route? read
      rcases origin with active | ⟨key, planned⟩
      · obtain ⟨pattern, member, read⟩ := Catalogue.exists_active_pattern active
        cases parsed.symm.trans read
        exact List.mem_append_left _ member
      · obtain ⟨pattern, member, read⟩ := Catalogue.exists_planned_pattern planned
        cases parsed.symm.trans read
        exact List.mem_append_right _ (List.mem_map_of_mem (f := Prod.snd) member)
    rw [Pattern.length_split_of_match? matched]
    refine Catalogue.one_lt_length_of_parameter _ declared fun unnamed => parameterized ?_
    exact Pattern.eq_empty_of_match? unnamed matched
  · exact absurd rfl parameterized

/-- No page with parameters has chrome when chrome is shown for listed paths only and every listed
path has at most one segment, whatever planned routes are enabled. -/
theorem render_chrome_of_parameters {config : Config} {supply : StampSupply} {shell : Shell}
    (built : standard config supply = .ok shell) (gated : config.chrome.mode = .pathGated)
    (short : ∀ path ∈ config.chrome.paths, (Path.split path).length ≤ 1) (link : String)
    (parameterized : (shell.render link).parameters ≠ TextMap.empty) :
    (shell.render link).chrome = none := by
  have checked := (build_eq_ok_iff config _ _ _ shell).1 built
  have long := one_lt_length_split_of_parameters checked.table_eq parameterized
  have unlisted : (Location.parse link).pathname ∉ config.chrome.paths :=
    fun listed => Nat.not_le_of_lt long (short _ listed)
  rw [← Option.not_isSome_iff_eq_none]
  exact mt (checked.hasChrome_iff gated link).1 unlisted

/-- The paths that have chrome by default are short, so the page of a withdrawal never has it. -/
theorem render_chrome_of_parameters_withdraw :
    let config : Config := { routing := { backlog := ["withdraw", "wallet"] } }
    (∀ path ∈ config.chrome.paths, (Path.split path).length ≤ 1) ∧
      ∃ shell, standard config { stamp := fun _ => default } = .ok shell ∧
        (shell.render "/acct-1/withdraw/card-9").parameters ≠ TextMap.empty ∧
        (shell.render "/acct-1/withdraw/card-9").chrome = none := by
  intro config
  have short : ∀ path ∈ config.chrome.paths, (Path.split path).length ≤ 1 := by decide
  obtain ⟨shell, built, parameterized⟩ : ∃ shell,
      standard config { stamp := fun _ => default } = .ok shell ∧
        (shell.render "/acct-1/withdraw/card-9").parameters ≠ TextMap.empty := by
    refine ⟨_, rfl, ?_⟩
    decide +kernel
  exact ⟨short, shell, built, parameterized,
    render_chrome_of_parameters built rfl short _ parameterized⟩

end Shell

end Wayfinder
