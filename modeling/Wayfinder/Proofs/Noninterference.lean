/-
This file proves that the answers of a session do not depend on identifiers, times or the
attributes of the context. Two shells are alike when they were set up alike, their contexts have
the same title, and their histories stop at the same locations with the cursor at the same place;
who the session is and how each visit was stamped may differ. A view of the application reads
nothing of the context but the title, so alike shells show the same screens, and every command
keeps them alike. So do whole sessions, and they write the same text.
-/
import Wayfinder.Proofs.Building
import Wayfinder.Proofs.Composition

namespace Wayfinder

/-! ### The views of the application -/

namespace View

/-- The views that the application comes with, and the placeholders that can be made. -/
inductive IsOwn : View → Prop where
  | login : IsOwn .login
  | transactionHistory : IsOwn .transactionHistory
  | transactionDetails : IsOwn .transactionDetails
  | portfolio : IsOwn .portfolio
  | market : IsOwn .market
  | notFound : IsOwn .notFound
  | placeholder (announced : Placeholder) : IsOwn (.placeholder announced)

/-- A view of the application reads nothing of the context but the title. -/
theorem IsOwn.render_eq {view : View} (own : view.IsOwn) (pathname : String)
    (parameters : TextMap) {first second : AppContext}
    (sameTitle : first.appTitle = second.appTitle) :
    view.render ⟨pathname, parameters, first⟩ = view.render ⟨pathname, parameters, second⟩ := by
  cases own with
  | login =>
    simp only [View.login, sameTitle]
  | _ => rfl

theorem isOwn_standardViews : ∀ view ∈ Registry.standardViews, view.IsOwn := by
  rw [Registry.standardViews, List.forall_mem_append, List.forall_mem_map]
  refine ⟨?_, fun page _ => .placeholder _⟩
  simp only [List.forall_mem_cons]
  exact ⟨.login, .transactionHistory, .transactionDetails, .portfolio, .market, .placeholder _,
    .notFound, List.forall_mem_nil _⟩

end View

/-! ### Histories with the same stops -/

namespace History

/-- Two histories have the same stops: the same locations, with the cursor at the same place, and
the same room. -/
structure SameStops (first second : History) : Prop where
  locations : first.visits.map Visit.location = second.visits.map Visit.location
  cursor : first.cursor = second.cursor
  capacity : first.capacity = second.capacity

section Stops

variable {first second : History} (same : first.SameStops second)

include same

theorem SameStops.length_eq : first.visits.length = second.visits.length := by
  simpa only [List.length_map] using congrArg List.length same.locations

theorem SameStops.isEmpty_eq : first.visits.isEmpty = second.visits.isEmpty := by
  simpa only [List.isEmpty_map] using congrArg List.isEmpty same.locations

theorem current?_location_eq :
    first.current?.map Visit.location = second.current?.map Visit.location := by
  rw [current?, current?, ← List.getElem?_map, ← List.getElem?_map, same.locations, same.cursor]

theorem push_sameStops (firstStamp secondStamp : Stamp) (location : Location) :
    (first.push ⟨firstStamp, location⟩).SameStops (second.push ⟨secondStamp, location⟩) := by
  have visited :
      (first.visits.take (first.cursor + 1) ++ [Visit.mk firstStamp location]).map
          Visit.location =
        (second.visits.take (second.cursor + 1) ++ [Visit.mk secondStamp location]).map
          Visit.location := by
    rw [List.map_append, List.map_append, List.map_take, List.map_take, same.locations,
      same.cursor, List.map_singleton, List.map_singleton]
  have asMany : (first.visits.take (first.cursor + 1) ++ [Visit.mk firstStamp location]).length =
      (second.visits.take (second.cursor + 1) ++ [Visit.mk secondStamp location]).length := by
    simpa only [List.length_map] using congrArg List.length visited
  refine ⟨?_, ?_, same.capacity⟩
  · show List.map _ (List.drop _ _) = List.map _ (List.drop _ _)
    rw [List.map_drop, List.map_drop, visited, asMany, same.capacity]
  · show (List.drop _ _).length - 1 = (List.drop _ _).length - 1
    rw [List.length_drop, List.length_drop, asMany, same.capacity]

theorem replace_sameStops (firstStamp secondStamp : Stamp) (location : Location) :
    (first.replace ⟨firstStamp, location⟩).SameStops
      (second.replace ⟨secondStamp, location⟩) := by
  unfold replace
  rw [same.isEmpty_eq]
  split
  · exact push_sameStops same firstStamp secondStamp location
  · refine ⟨?_, same.cursor, same.capacity⟩
    show List.map _ (List.set _ _ _) = List.map _ (List.set _ _ _)
    rw [List.map_set, List.map_set, same.locations, same.cursor]

theorem back?_sameStops : Option.Rel SameStops first.back? second.back? := by
  have possible : first.canGoBack = second.canGoBack := by
    rw [canGoBack, canGoBack, same.isEmpty_eq, same.cursor]
  unfold back?
  rw [possible, same.cursor]
  split
  · exact .some ⟨same.locations, rfl, same.capacity⟩
  · exact .none

theorem forward?_sameStops : Option.Rel SameStops first.forward? second.forward? := by
  have possible : first.canGoForward = second.canGoForward := by
    rw [canGoForward, canGoForward, same.length_eq, same.cursor]
  unfold forward?
  rw [possible, same.cursor]
  split
  · exact .some ⟨same.locations, rfl, same.capacity⟩
  · exact .none

end Stops

end History

/-! ### Alike shells -/

namespace Shell

/-- Two shells are alike when only the stamps and the attributes can tell them apart. -/
structure Alike (one other : Shell) : Prop where
  table : one.table = other.table
  fallback : one.fallback = other.fallback
  chromePolicy : one.chromePolicy = other.chromePolicy
  chromeLinks : one.chromeLinks = other.chromeLinks
  registry : one.registry = other.registry
  own : ∀ page view, one.registry.get? page = some view → view.IsOwn
  title : one.context.appTitle = other.context.appTitle
  history : one.history.SameStops other.history

/-- Two answers, with the shells after them, are alike when the answers are equal and the shells
are alike. -/
def AnsweredAlike {Answer : Type} (first second : Answer × Shell) : Prop :=
  first.1 = second.1 ∧ first.2.Alike second.2

section Alike

variable {one other : Shell} (alike : one.Alike other)

include alike

/-- Shells stay alike when their histories change to ones with the same stops. -/
theorem Alike.withHistory {first second : History} (same : first.SameStops second)
    (firstSupply secondSupply : StampSupply) :
    Alike { one with history := first, supply := firstSupply }
      { other with history := second, supply := secondSupply } :=
  { alike with history := same }

theorem screenOf_eq (pathname : String) (pattern : Option String) (page : Option Page)
    (parameters : TextMap) :
    one.screenOf pathname pattern page parameters =
      other.screenOf pathname pattern page parameters := by
  have content : (page.bind one.registry.get?).map
        (·.render ⟨pathname, parameters, one.context⟩) =
      (page.bind other.registry.get?).map (·.render ⟨pathname, parameters, other.context⟩) := by
    rw [← alike.registry]
    cases found : page.bind one.registry.get? with
    | none => rfl
    | some view =>
      obtain ⟨page, _, registered⟩ := Option.bind_eq_some_iff.1 found
      exact congrArg some ((alike.own page view registered).render_eq _ _ alike.title)
  rw [screenOf, screenOf, content, Chrome.frame, Chrome.frame, alike.chromePolicy,
    alike.chromeLinks, alike.title]

/-- Alike shells show the same screens. -/
theorem screenAt_eq : one.screenAt = other.screenAt := by
  funext path
  rw [screenAt, screenAt, alike.table, alike.fallback]
  cases other.table.resolve path with
  | none => exact screenOf_eq alike _ _ _ _
  | some found => exact screenOf_eq alike _ _ _ _

theorem current?_eq : one.current? = other.current? := by
  have shown : ∀ shell : Shell, shell.current? =
      (shell.history.current?.map Visit.location).map (shell.screenAt ·.pathname) := by
    intro shell
    rw [current?, Option.map_map]
    rfl
  rw [shown, shown, History.current?_location_eq alike.history, screenAt_eq alike]

theorem moveTo?_alike {first second : History} (same : first.SameStops second) :
    Option.Rel AnsweredAlike (one.moveTo? first) (other.moveTo? second) := by
  have moved : Alike { one with history := first } { other with history := second } :=
    alike.withHistory same one.supply other.supply
  unfold moveTo?
  dsimp only
  rw [current?_eq moved]
  cases current? { other with history := second } with
  | none => exact .none
  | some screen => exact .some ⟨rfl, moved⟩

theorem move_alike {first second : Option History}
    (same : Option.Rel History.SameStops first second) :
    Option.Rel AnsweredAlike (first.bind one.moveTo?) (second.bind other.moveTo?) := by
  cases same with
  | none => exact .none
  | some same => exact moveTo?_alike alike same

theorem replyOr_alike (notice : String) {first second : Option (Screen × Shell)}
    (same : Option.Rel AnsweredAlike first second) :
    AnsweredAlike (one.replyOr notice first) (other.replyOr notice second) := by
  cases same with
  | none => exact ⟨rfl, alike⟩
  | some answered => exact ⟨congrArg Reply.screen answered.1, answered.2⟩

/-- Alike shells answer every command alike. -/
theorem execute_alike (command : Command) :
    AnsweredAlike (one.execute command) (other.execute command) := by
  cases command with
  | navigate link =>
    exact ⟨congrArg Reply.screen (congrFun (screenAt_eq alike) _),
      alike.withHistory (History.push_sameStops alike.history _ _ _) _ _⟩
  | replace link =>
    exact ⟨congrArg Reply.screen (congrFun (screenAt_eq alike) _),
      alike.withHistory (History.replace_sameStops alike.history _ _ _) _ _⟩
  | back =>
    exact replyOr_alike alike _ (move_alike alike (History.back?_sameStops alike.history))
  | forward =>
    exact replyOr_alike alike _ (move_alike alike (History.forward?_sameStops alike.history))
  | current =>
    rw [execute, execute, current?_eq alike]
    cases other.current? <;> exact ⟨rfl, alike⟩
  | routes =>
    rw [execute, execute, alike.table]
    exact ⟨rfl, alike⟩
  | quit => exact ⟨rfl, alike⟩

end Alike

/-- Shells that are built from the same configuration and the same views of the application, with
contexts of the same title, are alike. -/
theorem build_alike {config : Config} {views : List View} (own : ∀ view ∈ views, view.IsOwn)
    {first second : AppContext} (sameTitle : first.appTitle = second.appTitle)
    {firstSupply secondSupply : StampSupply} {one other : Shell}
    (builtOne : build config (Registry.empty.registerAll views) first firstSupply = .ok one)
    (builtOther : build config (Registry.empty.registerAll views) second secondSupply =
      .ok other) :
    one.Alike other := by
  have checkedOne := (build_eq_ok_iff _ _ _ _ _).1 builtOne
  have checkedOther := (build_eq_ok_iff _ _ _ _ _).1 builtOther
  have sameTable : one.table = other.table :=
    Except.ok.inj (checkedOne.table.symm.trans checkedOther.table)
  have registered : ∀ page view,
      (Registry.empty.registerAll views).get? page = some view → view.IsOwn := by
    intro page view found
    obtain ⟨earlier, later, rfl, _⟩ :=
      (Registry.get?_registerAll_eq_some_iff views page view).1 found
    exact own view (List.mem_append_right _ List.mem_cons_self)
  rw [checkedOne.state, checkedOther.state]
  exact ⟨sameTable, rfl, rfl, rfl, rfl, registered, sameTitle, rfl, rfl, rfl⟩

end Shell

/-! ### Whole sessions -/

namespace Session

/-- Two sessions are alike when they have given the same answers, in text and number too, and have
alike shells. -/
structure Progress.Alike (one other : Progress) : Prop where
  replies : one.replies = other.replies
  output : one.output = other.output
  count : one.count = other.count
  shell : one.shell.Alike other.shell

theorem Progress.Alike.answered {one other : Progress} (alike : one.Alike other) (reply : Reply)
    {first second : Shell} (after : first.Alike second) :
    (one.answered reply first).Alike (other.answered reply second) where
  replies := congrArg (· ++ [reply]) alike.replies
  output := congrArg (· ++ reply.line) alike.output
  count := congrArg (· + 1) alike.count
  shell := after

/-- Alike sessions stay alike over all lines, and fail alike. -/
theorem resume_alike {one other : Progress} (alike : one.Alike other)
    (lines : List (List UInt8)) :
    (resume one lines).toProgress.Alike (resume other lines).toProgress ∧
      (resume one lines).failed = (resume other lines).failed := by
  induction lines generalizing one other with
  | nil => exact ⟨alike, rfl⟩
  | cons line rest inductionHypothesis =>
    by_cases passes : Passes line
    · obtain ⟨text, decoded, goesOn⟩ := passes
      cases parsed : Command.parse text with
      | error error =>
        rw [resume_of_goesOn (turn_of_error decoded parsed one),
          resume_of_goesOn (turn_of_error decoded parsed other)]
        exact inductionHypothesis (alike.answered _ alike.shell)
      | ok command? =>
        cases command? with
        | none =>
          rw [resume_of_goesOn (turn_of_blank decoded parsed one),
            resume_of_goesOn (turn_of_blank decoded parsed other)]
          exact inductionHypothesis alike
        | some command =>
          have different : command ≠ .quit := fun quit => goesOn (quit ▸ parsed)
          obtain ⟨sameReply, after⟩ := Shell.execute_alike alike.shell command
          rw [resume_of_goesOn (turn_of_command decoded parsed different one),
            resume_of_goesOn (turn_of_command decoded parsed different other), sameReply]
          exact inductionHypothesis (alike.answered _ after)
    · rw [resume_of_ends (turn_of_not_passes passes one),
        resume_of_ends (turn_of_not_passes passes other)]
      exact ⟨alike, rfl⟩

/-- What a session writes does not depend on identifiers, times or attributes. With any views of
the application and two contexts of the same title, whatever their stamps and attributes and
whatever stamps the visits get, building a shell succeeds or fails alike, and on every input the
two sessions write the same text, give as many answers, and fail alike. -/
theorem run_eq_of_same_title (config : Config) {views : List View}
    (own : ∀ view ∈ views, view.IsOwn) {first second : AppContext}
    (sameTitle : first.appTitle = second.appTitle) (firstSupply secondSupply : StampSupply) :
    let registry := Registry.empty.registerAll views
    (∀ error, Shell.build config registry first firstSupply = .error error ↔
        Shell.build config registry second secondSupply = .error error) ∧
      ∀ one other, Shell.build config registry first firstSupply = .ok one →
        Shell.build config registry second secondSupply = .ok other → ∀ input,
          (run one input).output = (run other input).output ∧
            (run one input).count = (run other input).count ∧
            (run one input).replies = (run other input).replies ∧
            (run one input).failed = (run other input).failed := by
  intro registry
  refine ⟨fun error => ?_, fun one other builtOne builtOther input => ?_⟩
  · rw [Shell.build_eq_error_iff, Shell.build_eq_error_iff]
  · have start : (Progress.start one).Alike (.start other) :=
      ⟨rfl, rfl, rfl, Shell.build_alike own sameTitle builtOne builtOther⟩
    obtain ⟨alike, failed⟩ := resume_alike start (lines input)
    exact ⟨alike.output, alike.count, alike.replies, failed⟩

/-- Sessions with different identifiers, times and attributes sign in and go back alike. -/
theorem run_eq_of_same_title_standard :
    let first : AppContext := ⟨⟨⟨1⟩, ⟨0, 0⟩⟩, "Desk", TextMap.empty⟩
    let second : AppContext := ⟨⟨⟨2⟩, ⟨9, 0⟩⟩, "Desk", TextMap.empty.insert "theme" "dark"⟩
    let registry := Registry.empty.registerAll Registry.standardViews
    -- The lines are a link to the page to sign in, one to the market, and the way back.
    let input : List UInt8 :=
      [47, 10, 47, 109, 97, 114, 107, 101, 116, 10, 98, 97, 99, 107, 10]
    (∀ view ∈ Registry.standardViews, view.IsOwn) ∧ first.appTitle = second.appTitle ∧
      ∃ one other,
        Shell.build {} registry first { stamp := fun _ => ⟨⟨3⟩, ⟨1, 0⟩⟩ } = .ok one ∧
        Shell.build {} registry second { stamp := fun drawn => ⟨⟨4⟩, ⟨drawn, 0⟩⟩ } =
          .ok other ∧
        (run one input).output = (run other input).output := by
  intro first second registry input
  obtain ⟨one, builtOne⟩ : ∃ one,
      Shell.build {} registry first { stamp := fun _ => ⟨⟨3⟩, ⟨1, 0⟩⟩ } = .ok one := ⟨_, rfl⟩
  obtain ⟨other, builtOther⟩ : ∃ other,
      Shell.build {} registry second { stamp := fun drawn => ⟨⟨4⟩, ⟨drawn, 0⟩⟩ } = .ok other :=
    ⟨_, rfl⟩
  have sameTitle : first.appTitle = second.appTitle := rfl
  have same := run_eq_of_same_title {} View.isOwn_standardViews sameTitle
    { stamp := fun _ => ⟨⟨3⟩, ⟨1, 0⟩⟩ } { stamp := fun drawn => ⟨⟨4⟩, ⟨drawn, 0⟩⟩ }
  exact ⟨View.isOwn_standardViews, sameTitle, one, other, builtOne, builtOther,
    (same.2 one other builtOne builtOther input).1⟩

end Session

end Wayfinder
