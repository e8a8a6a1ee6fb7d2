/-
This file proves that registration only appends. A call fails exactly when its text is no
pattern, or when the table rejects covered routes and some route covers the new one, and the
error says which. A call that fails changes nothing. One that succeeds declares its route behind
all others, so that a path that led somewhere before still leads there. The same then holds for
any number of calls, and for a longer list of backlog keys.
-/
import Wayfinder.Proofs.Backlog
import Wayfinder.Proofs.Shadowing

namespace Wayfinder.RouteTable

/-! ### Failing -/

/-- A route covers a pattern, and no earlier route of the table does. -/
def CoversFirst (table : RouteTable) (route : Route) (pattern : Pattern) : Prop :=
  ∃ before after, table.routes = before ++ route :: after ∧
    route.pattern.covers pattern = true ∧
      ∀ earlier ∈ before, earlier.pattern.covers pattern = false

theorem coveredBy?_eq_some_iff (table : RouteTable) (pattern : Pattern) (route : Route) :
    table.coveredBy? pattern = some route ↔ table.CoversFirst route pattern := by
  rw [coveredBy?, List.find?_eq_some_iff_append, CoversFirst]
  simp only [Bool.not_eq_true']
  constructor
  · rintro ⟨covers, before, after, routes, misses⟩
    exact ⟨before, after, routes, covers, misses⟩
  · rintro ⟨before, after, routes, covers, misses⟩
    exact ⟨covers, before, after, routes, misses⟩

/-- A text that can be read is refused only as shadowed, by the first route that covers it. -/
theorem register_eq_error_of_parse (table : RouteTable) {text : String} {pattern : Pattern}
    (parsed : Pattern.parse text = .ok pattern) (page : Page) (error : RouteError) :
    (table.register text page).1 = .error error ↔
      table.shadowing = .reject ∧ ∃ route, table.CoversFirst route pattern ∧
        error = .shadowed text route.pattern.text := by
  have read : (⟨text, page⟩ : Declaration).route? = some ⟨pattern, page⟩ :=
    Declaration.route?_of_parse parsed
  rw [register_eq_error_iff table error read]
  simp only [coveredBy?_eq_some_iff]

/-- A call fails because of its text exactly when the text cannot be read. -/
theorem register_eq_invalidPattern_iff (table : RouteTable) (text : String) (page : Page)
    (named : String) (reason : PatternError) :
    (table.register text page).1 = .error (.invalidPattern named reason) ↔
      named = text ∧ Pattern.parse text = .error reason := by
  cases parsed : Pattern.parse text with
  | error cause => simp [register_of_invalid table parsed, eq_comm]
  | ok pattern => simp [register_eq_error_of_parse table parsed]

/-- Some route covers a pattern exactly when there is a first one that does. -/
theorem exists_coversFirst_iff (table : RouteTable) (pattern : Pattern) :
    (∃ route, table.CoversFirst route pattern) ↔ table.Covers pattern := by
  simp only [← coveredBy?_eq_some_iff, ← Option.ne_none_iff_exists']
  rw [Ne, coveredBy?_eq_none_iff, not_not]

/-! ### Keeping what resolves -/

/-- A table leads every path that another one leads somewhere to the same place. -/
def Keeps (table extended : RouteTable) : Prop :=
  ∀ path found, table.resolve path = some found → extended.resolve path = some found

theorem keeps_refl (table : RouteTable) : table.Keeps table :=
  fun _ _ resolved => resolved

theorem Keeps.trans {first second third : RouteTable} (earlier : first.Keeps second)
    (later : second.Keeps third) : first.Keeps third :=
  fun path found resolved => later path found (earlier path found resolved)

theorem keeps_append (table : RouteTable) (route : Route) : table.Keeps (table.append route) := by
  intro path found resolved
  rw [resolve_append, resolved, Option.some_or]

/-- One call keeps what resolves, whether it fails or not. -/
theorem keeps_attempt (table : RouteTable) (declaration : Declaration) :
    table.Keeps (table.attempt declaration) := by
  rcases attempt_cases table declaration with
    ⟨_, _, same⟩ | ⟨_, _, _, _, same⟩ | ⟨pattern, _, _, appended⟩
  · rw [same]
    exact keeps_refl table
  · rw [same]
    exact keeps_refl table
  · rw [appended]
    exact keeps_append table _

/-- Any number of calls keep what resolves. -/
theorem keeps_attemptAll (table : RouteTable) (declarations : List Declaration) :
    table.Keeps (table.attemptAll declarations) := by
  induction declarations generalizing table with
  | nil => exact keeps_refl table
  | cons declaration rest inductionHypothesis =>
    exact (keeps_attempt table declaration).trans (inductionHypothesis _)

theorem keeps_enableAll {table extended : RouteTable} {keys : List String}
    (enabled : table.enableAll keys = .ok extended) : table.Keeps extended := by
  induction keys generalizing table with
  | nil =>
    cases enabled
    exact keeps_refl _
  | cons key rest inductionHypothesis =>
    unfold enableAll at enabled
    split at enabled
    · cases enabled
    · next planned _ =>
      split at enabled
      · cases enabled
      · next reached registered =>
        obtain ⟨route, _, _, rfl⟩ := (register_eq_ok_iff table _ _).1 registered
        exact (keeps_append table route).trans (inductionHypothesis enabled)

/-- More keys at the end of a list keep what the table of the list resolves. -/
theorem keeps_withBacklog {shadowing : Shadowing} {keys more : List String}
    {shorter longer : RouteTable} (madeShorter : withBacklog shadowing keys = .ok shorter)
    (madeLonger : withBacklog shadowing (keys ++ more) = .ok longer) : shorter.Keeps longer := by
  rw [withBacklog_eq, enableAll_append, ← withBacklog_eq, madeShorter] at madeLonger
  exact keeps_enableAll madeLonger

/-! ### Appending -/

theorem declarations_append (table : RouteTable) (route : Route) :
    (table.append route).declarations =
      table.declarations ++ [⟨route.pattern.text, route.page⟩] := by
  rw [declarations, append, List.map_append, List.map_singleton]
  rfl

/-- What a call that succeeds makes of a table. -/
theorem register_eq_ok {table extended : RouteTable} {text : String} {page : Page}
    (registered : table.register text page = (.ok (), extended)) :
    ∃ pattern, Pattern.parse text = .ok pattern ∧ extended = table.append ⟨pattern, page⟩ ∧
      extended.declarations = table.declarations ++ [⟨text, page⟩] := by
  obtain ⟨route, read, _, rfl⟩ := (register_eq_ok_iff table _ ⟨text, page⟩).1 registered
  have declared := Declaration.eq_of_route? read
  obtain ⟨parsed, same⟩ := (Declaration.route?_eq_some_iff _ route).1 read
  refine ⟨route.pattern, parsed, ?_, ?_⟩
  · rw [show page = route.page from same]
  · rw [declarations_append, declared]

/-- Registration only appends and never disturbs what resolves, whatever the table. A call fails
because of its text exactly when this is no pattern, and otherwise exactly when the table rejects
covered routes and some route covers the new one, of which the first is named. A call that fails
leaves the table as it was. One that succeeds adds its declaration at the end, and a path that
resolved to nothing before is then left to the new pattern. Hence no calls and no further backlog
keys change where a path leads that leads somewhere. -/
theorem register_only_appends (table : RouteTable) (text : String) (page : Page) :
    (∀ named reason, (table.register text page).1 = .error (.invalidPattern named reason) ↔
        named = text ∧ Pattern.parse text = .error reason) ∧
      (∀ pattern, Pattern.parse text = .ok pattern →
        ((∃ error, (table.register text page).1 = .error error) ↔
            table.shadowing = .reject ∧ table.Covers pattern) ∧
          ∀ error, (table.register text page).1 = .error error →
            ∃ route, table.CoversFirst route pattern ∧
              error = .shadowed text route.pattern.text) ∧
      (∀ error after, table.register text page = (.error error, after) → after = table) ∧
      (∀ extended, table.register text page = (.ok (), extended) →
        extended.declarations = table.declarations ++ [⟨text, page⟩] ∧
          ∃ pattern, Pattern.parse text = .ok pattern ∧ ∀ path, extended.resolve path =
            (table.resolve path).or ((pattern.match? path).map (RouteMatch.mk ⟨pattern, page⟩))) ∧
      (∀ declarations path found, table.resolve path = some found →
        (table.attemptAll declarations).resolve path = some found) ∧
      ∀ shadowing keys more shorter longer, withBacklog shadowing keys = .ok shorter →
        withBacklog shadowing (keys ++ more) = .ok longer →
          ∀ path found, shorter.resolve path = some found → longer.resolve path = some found := by
  refine ⟨register_eq_invalidPattern_iff table text page, fun pattern parsed => ⟨?_, ?_⟩,
    fun _ _ => table_of_register_error, ?_, keeps_attemptAll table,
    fun _ _ _ _ _ => keeps_withBacklog⟩
  · rw [← exists_coversFirst_iff]
    simp only [register_eq_error_of_parse table parsed]
    rw [exists_and_left, exists_comm]
    simp only [exists_and_left, exists_eq, and_true]
  · intro error failed
    exact ((register_eq_error_of_parse table parsed page error).1 failed).2
  · intro extended registered
    obtain ⟨pattern, parsed, rfl, declared⟩ := register_eq_ok registered
    exact ⟨declared, pattern, parsed, resolve_append table ⟨pattern, page⟩⟩

theorem register_only_appends_portfolio :
    let table := (empty .reject).attemptAll [⟨"/:accountId/portfolio", .portfolio⟩]
    let special : Pattern := ⟨[.literal "market", .literal "portfolio"]⟩
    let refusal : RouteError := .shadowed "/market/portfolio" "/:accountId/portfolio"
    (Pattern.parse "/market/portfolio" = .ok special ∧
        (∃ after, table.register "/market/portfolio" .market = (.error refusal, after) ∧
          after = table) ∧
        table.shadowing = .reject ∧ table.Covers special) ∧
      (∃ extended, table.register "/market" .market = (.ok (), extended) ∧
        extended.declarations = table.declarations ++ [⟨"/market", .market⟩]) ∧
      ∃ shorter longer found, withBacklog .reject ["wallet"] = .ok shorter ∧
        withBacklog .reject (["wallet"] ++ ["home"]) = .ok longer ∧
          shorter.resolve "/wallet" = some found ∧ longer.resolve "/wallet" = some found := by
  intro table special refusal
  have parsed : Pattern.parse "/market/portfolio" = .ok special := rfl
  have refused : (table.register "/market/portfolio" .market).1 = .error refusal := rfl
  obtain ⟨_, shadowed, unchanged, _⟩ :=
    register_only_appends table "/market/portfolio" .market
  obtain ⟨_, _, _, appended, _, kept⟩ := register_only_appends table "/market" .market
  obtain ⟨rejects, covered⟩ := (shadowed special parsed).1.1 ⟨refusal, refused⟩
  refine ⟨⟨parsed, ⟨_, rfl, unchanged refusal _ rfl⟩, rejects, covered⟩,
    ⟨_, rfl, (appended _ rfl).1⟩, ?_⟩
  have madeShorter : withBacklog .reject ["wallet"] = .ok (backlogTable .reject ["wallet"]) := by
    decide +kernel
  have madeLonger : withBacklog .reject (["wallet"] ++ ["home"]) =
      .ok (backlogTable .reject ["wallet", "home"]) := by
    decide +kernel
  have resolved : (backlogTable .reject ["wallet"]).resolve "/wallet" =
      some ⟨⟨⟨[.literal "wallet"]⟩, .wallet⟩, TextMap.empty⟩ := by
    decide +kernel
  exact ⟨_, _, _, madeShorter, madeLonger, resolved,
    kept _ _ _ _ _ madeShorter madeLonger _ _ resolved⟩

end Wayfinder.RouteTable
