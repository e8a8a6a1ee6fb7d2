/-
This file follows the identifier of an account or of a transaction from a link to the page about
it. Only one declared route leads to each of these pages, and no route that is tried earlier
shares a path with it; so the page is shown exactly for the paths that the pattern of that route
becomes when an identifier is filled in, whatever planned routes are enabled. The page then has
the identifier as its only parameter and shows it unchanged, or says that there is none when all
of it is blank.
-/
import Wayfinder.Proofs.Backlog
import Wayfinder.Proofs.Linking
import Wayfinder.Proofs.Rendering

namespace Wayfinder

/-! ### Subjects -/

/-- What a page is about when the path to it names one thing of a kind by an identifier. -/
inductive Subject where
  | account
  | transaction

namespace Subject

/-- The page about a subject. -/
def page : Subject → Page
  | account => .portfolio
  | transaction => .transactionDetails

/-- The path to the page about the thing with an identifier. -/
def path (identifier : String) : Subject → String
  | account => "/" ++ identifier ++ "/portfolio"
  | transaction => "/transaction-history/" ++ identifier ++ "/details"

/-- The name under which the identifier is captured. -/
def parameter : Subject → String
  | account => "accountId"
  | transaction => "transactionId"

/-- The text by which the page shows the identifier. -/
def caption (identifier : String) : Subject → String
  | account => "Account " ++ identifier
  | transaction => "Transaction " ++ identifier

/-- The notice that there is no identifier to show. -/
def absence : Subject → String
  | account => "No account was specified."
  | transaction => "No transaction was specified."

/-- The declared route that leads to the page. -/
def declaration : Subject → Declaration
  | account => ⟨"/:accountId/portfolio", .portfolio⟩
  | transaction => ⟨"/transaction-history/:transactionId/details", .transactionDetails⟩

/-- The pattern of that route. -/
def pattern : Subject → Pattern
  | account => ⟨[.parameter "accountId", .literal "portfolio"]⟩
  | transaction =>
    ⟨[.literal "transaction-history", .parameter "transactionId", .literal "details"]⟩

/-- The view of the page. -/
def view : Subject → View
  | account => .portfolio
  | transaction => .transactionDetails

theorem parse_declaration (subject : Subject) :
    Pattern.parse subject.declaration.pattern = .ok subject.pattern := by
  cases subject <;> rfl

theorem route?_declaration (subject : Subject) :
    subject.declaration.route? = some ⟨subject.pattern, subject.page⟩ := by
  rw [Declaration.route?_of_parse subject.parse_declaration]
  cases subject <;> rfl

theorem standard_get?_page (subject : Subject) :
    Registry.standard.get? subject.page = some subject.view := by
  cases subject <;> rfl

/-- The route to the page is an active one, and no route in front of it shares a path with it. -/
theorem exists_activeRoutes_split (subject : Subject) :
    ∃ before after, Catalogue.activeRoutes = before ++ subject.declaration :: after ∧
      ∀ earlier ∈ before, ¬ earlier.Overlaps subject.declaration := by
  cases subject with
  | account =>
    exact ⟨Catalogue.activeRoutes.take 3, Catalogue.activeRoutes.drop 4, rfl, by decide +kernel⟩
  | transaction =>
    exact ⟨Catalogue.activeRoutes.take 2, Catalogue.activeRoutes.drop 3, rfl, by decide +kernel⟩

/-- No other active route leads to the page. -/
theorem eq_declaration_of_active (subject : Subject) {declared : Declaration}
    (member : declared ∈ Catalogue.activeRoutes) (leads : declared.page = subject.page) :
    declared = subject.declaration := by
  have only : ∀ declared ∈ Catalogue.activeRoutes, declared.page = subject.page →
      declared = subject.declaration := by
    cases subject <;> decide
  exact only declared member leads

/-- No planned route leads to the page. -/
theorem ne_page_of_planned (subject : Subject) {key : String} {declared : Declaration}
    (found : Catalogue.declaration? key = some declared) : declared.page ≠ subject.page := by
  have never : ∀ planned ∈ Catalogue.plannedRoutes, planned.declaration.page ≠ subject.page := by
    cases subject <;> decide
  obtain ⟨planned, foundPlanned, rfl⟩ := Option.map_eq_some_iff.1 found
  exact never planned (Catalogue.of_planned? foundPlanned).1

theorem fallbackPage_ne (subject : Subject) (fallback : Fallback) :
    Shell.fallbackPage fallback ≠ some subject.page := by
  cases fallback <;> cases subject <;> decide

/-! ### Filling in the identifier -/

theorem parameterNames_pattern (subject : Subject) :
    subject.pattern.parameterNames = [subject.parameter] := by
  cases subject <;> rfl

/-- The segments of the path to a page. -/
def parts (identifier : String) : Subject → List String
  | account => [identifier, "portfolio"]
  | transaction => ["transaction-history", identifier, "details"]

theorem join_parts (subject : Subject) (identifier : String) :
    Path.join (subject.parts identifier) = subject.path identifier := by
  cases subject with
  | account =>
    have ending : "/" ++ "portfolio" = "/portfolio" := rfl
    calc Path.join [identifier, "portfolio"]
        = "/" ++ identifier ++ ("/" ++ "portfolio") := by
          rw [Path.join_cons_cons, Path.join_singleton]
      _ = "/" ++ identifier ++ "/portfolio" := congrArg ("/" ++ identifier ++ ·) ending
  | transaction =>
    -- Over variables, so that no text is taken apart in search of its two halves.
    have regrouped (first second third fourth : String) :
        first ++ (second ++ third ++ fourth) = first ++ second ++ third ++ fourth := by
      simp only [String.append_assoc]
    have start : "/" ++ "transaction-history" ++ "/" = "/transaction-history/" := by
      decide +kernel
    have ending : "/" ++ "details" = "/details" := rfl
    calc Path.join ["transaction-history", identifier, "details"]
        = "/" ++ "transaction-history" ++ ("/" ++ identifier ++ ("/" ++ "details")) := by
          rw [Path.join_cons_cons, Path.join_cons_cons, Path.join_singleton]
      _ = "/" ++ "transaction-history" ++ "/" ++ identifier ++ ("/" ++ "details") :=
          regrouped _ _ _ _
      _ = "/transaction-history/" ++ identifier ++ "/details" :=
          congrArg₂ (· ++ identifier ++ ·) start ending

theorem fill_pattern (subject : Subject) (identifier : String) :
    subject.pattern.fill (TextMap.ofList [(subject.parameter, identifier)]) =
      subject.path identifier := by
  rw [← join_parts, Pattern.fill]
  refine congrArg Path.join ?_
  cases subject <;>
    simp only [pattern, parameter, parts, List.map_cons, List.map_nil, Segment.fill,
      TextMap.get?_ofList_singleton, if_true, Option.getD_some]

/-- A rooted path matches the pattern of a page exactly when it is the path to the page with some
identifier, which is then what is captured. -/
theorem match?_pattern_iff (subject : Subject) {path : String} (rooted : Path.IsRooted path)
    (parameters : TextMap) :
    subject.pattern.match? path = some parameters ↔
      ∃ identifier, Path.IsSolid identifier ∧ path = subject.path identifier ∧
        parameters = TextMap.ofList [(subject.parameter, identifier)] := by
  rw [Pattern.match?_eq_some_iff (Pattern.parse_ok subject.parse_declaration).1 rooted,
    Pattern.admits_iff_of_single subject.parameterNames_pattern]
  constructor
  · rintro ⟨⟨identifier, solid, rfl⟩, filled⟩
    exact ⟨identifier, solid, filled.trans (subject.fill_pattern identifier), rfl⟩
  · rintro ⟨identifier, solid, named, rfl⟩
    exact ⟨⟨identifier, solid, rfl⟩, named.trans (subject.fill_pattern identifier).symm⟩

theorem exists_match?_pattern_iff (subject : Subject) {path : String}
    (rooted : Path.IsRooted path) :
    (∃ parameters, subject.pattern.match? path = some parameters) ↔
      ∃ identifier, Path.IsSolid identifier ∧ path = subject.path identifier := by
  constructor
  · rintro ⟨parameters, matched⟩
    obtain ⟨identifier, solid, named, _⟩ := (subject.match?_pattern_iff rooted _).1 matched
    exact ⟨identifier, solid, named⟩
  · rintro ⟨identifier, solid, named⟩
    exact ⟨_, (subject.match?_pattern_iff rooted _).2 ⟨identifier, solid, named, rfl⟩⟩

end Subject

/-! ### Resolving -/

namespace RouteTable

/-- What a path resolves to was declared as an active route or as a planned one. -/
theorem exists_declaration_of_resolve {shadowing : Shadowing} {keys : List String} {path : String}
    {found : RouteMatch} (resolved : (backlogTable shadowing keys).resolve path = some found) :
    ∃ declaration, (declaration ∈ Catalogue.activeRoutes ∨
        ∃ key, Catalogue.declaration? key = some declaration) ∧
      declaration.lead? path = some found := by
  rw [resolve_backlogTable, Option.or_eq_some_iff] at resolved
  rcases resolved with active | ⟨_, planned⟩
  · obtain ⟨declaration, member, leads⟩ := List.exists_of_findSome?_eq_some active
    exact ⟨declaration, Or.inl member, leads⟩
  · obtain ⟨key, _, leads⟩ := List.exists_of_findSome?_eq_some planned
    obtain ⟨declaration, declared, leads⟩ := Option.bind_eq_some_iff.1 leads
    exact ⟨declaration, Or.inr ⟨key, declared⟩, leads⟩

/-- A path resolves to the route of a page exactly when it matches the pattern of that route. -/
theorem resolve_subject_iff (shadowing : Shadowing) (keys : List String) (subject : Subject)
    (path : String) (parameters : TextMap) :
    (backlogTable shadowing keys).resolve path =
        some ⟨⟨subject.pattern, subject.page⟩, parameters⟩ ↔
      subject.pattern.match? path = some parameters := by
  constructor
  · intro resolved
    obtain ⟨declaration, _, leads⟩ := exists_declaration_of_resolve resolved
    exact ((Declaration.lead?_eq_some_iff _ _ _).1 leads).2
  · intro matched
    have leads : subject.declaration.lead? path =
        some ⟨⟨subject.pattern, subject.page⟩, parameters⟩ :=
      (Declaration.lead?_eq_some_iff _ _ _).2 ⟨subject.route?_declaration, matched⟩
    obtain ⟨before, after, routes, apart⟩ := subject.exists_activeRoutes_split
    have misses : before.findSome? (·.lead? path) = none := by
      rw [List.findSome?_eq_none_iff]
      intro earlier member
      refine Option.not_isSome_iff_eq_none.1 fun leadsToo => apart earlier member ?_
      exact Declaration.overlaps_of_lead? leadsToo (Option.isSome_of_eq_some leads)
    rw [resolve_backlogTable, routes, List.findSome?_append, misses, Option.none_or]
    simp only [List.findSome?_cons, leads, Option.some_or]

/-- A path that resolves to a route to the page about a subject resolves to the route of the
subject. -/
theorem route_eq_of_page {shadowing : Shadowing} {keys : List String} {path : String}
    {found : RouteMatch} (resolved : (backlogTable shadowing keys).resolve path = some found)
    {subject : Subject} (leadsThere : found.route.page = subject.page) :
    found.route = ⟨subject.pattern, subject.page⟩ := by
  obtain ⟨declaration, origin, leads⟩ := exists_declaration_of_resolve resolved
  obtain ⟨read, _⟩ := (Declaration.lead?_eq_some_iff _ _ _).1 leads
  obtain ⟨_, page⟩ := (Declaration.route?_eq_some_iff _ _).1 read
  have toSubject : declaration.page = subject.page := page.trans leadsThere
  rcases origin with active | ⟨key, planned⟩
  · rw [subject.eq_declaration_of_active active toSubject, subject.route?_declaration] at read
    exact (Option.some.inj read).symm
  · exact absurd toSubject (subject.ne_page_of_planned planned)

end RouteTable

/-! ### Showing the identifier -/

theorem TextMap.nonBlank?_eq_some {map : TextMap} {name text : String}
    (found : map.get? name = some text)
    (worded : ∃ character ∈ text.toList, Text.isBlank character = false) :
    map.nonBlank? name = some text :=
  (map.nonBlank?_eq_some_iff name text).2 ⟨found, worded⟩

theorem TextMap.nonBlank?_eq_none {map : TextMap} {name text : String}
    (found : map.get? name = some text)
    (blank : ∀ character ∈ text.toList, Text.isBlank character = true) :
    map.nonBlank? name = none := by
  refine Option.eq_none_iff_forall_ne_some.2 fun other shown => ?_
  obtain ⟨foundOther, character, member, notBlank⟩ := (map.nonBlank?_eq_some_iff name other).1 shown
  cases found.symm.trans foundOther
  exact Bool.eq_false_iff.1 notBlank (blank character member)

namespace Content

/-- The paragraphs of a page, from top to bottom. -/
def paragraphs (content : Content) : List String :=
  content.blocks.filterMap fun
    | .paragraph text => some text
    | _ => none

/-- The notices on a page, from top to bottom. -/
def notices (content : Content) : List String :=
  content.blocks.filterMap fun
    | .notice text => some text
    | _ => none

end Content

namespace Subject

/-- What is known about a subject, as it is shown below its identifier. -/
def table : Subject → Block
  | account => .table "holdings" ["symbol", "quantity", "average_price", "market_value"]
  | transaction => .table "transaction" ["field", "value"]

/-- What the page shows below its heading for the identifier it has, if any. -/
def body (subject : Subject) : Option String → List Block
  | some identifier => [.paragraph (subject.caption identifier), subject.table]
  | none => [.notice subject.absence]

theorem render_view (subject : Subject) (surroundings : Surroundings) :
    subject.view.render surroundings =
      ⟨subject.page.title, .heading subject.page.title ::
        subject.body (surroundings.parameters.nonBlank? subject.parameter)⟩ := by
  cases subject with
  | account =>
    simp only [view, View.portfolio, parameter]
    cases surroundings.parameters.nonBlank? "accountId" <;> rfl
  | transaction =>
    simp only [view, View.transactionDetails, parameter]
    cases surroundings.parameters.nonBlank? "transactionId" <;> rfl

/-- The page shows an identifier that is not blank, and no notice. -/
theorem render_view_of_some (subject : Subject) {surroundings : Surroundings} {identifier : String}
    (found : surroundings.parameters.nonBlank? subject.parameter = some identifier) :
    (subject.view.render surroundings).paragraphs = [subject.caption identifier] ∧
      (subject.view.render surroundings).notices = [] := by
  rw [render_view, found]
  cases subject <;> exact ⟨rfl, rfl⟩

/-- The page without an identifier says so, and nothing else. -/
theorem render_view_of_none (subject : Subject) {surroundings : Surroundings}
    (missing : surroundings.parameters.nonBlank? subject.parameter = none) :
    (subject.view.render surroundings).paragraphs = [] ∧
      (subject.view.render surroundings).notices = [subject.absence] := by
  rw [render_view, missing]
  exact ⟨rfl, rfl⟩

end Subject

namespace Shell

/-! ### The screens of a subject -/

theorem Built.table_eq {config : Config} {registry : Registry} {context : AppContext}
    {supply : StampSupply} {shell : Shell} (built : Built config registry context supply shell) :
    shell.table = RouteTable.backlogTable config.routing.shadowing config.routing.backlog :=
  ((RouteTable.withBacklog_eq_ok_iff _ _ _).1 built.table).2.2

section Backlog

variable {shell : Shell} {shadowing : Shadowing} {keys : List String}

theorem screenAt_of_match? (table : shell.table = RouteTable.backlogTable shadowing keys)
    {subject : Subject} {path : String} {parameters : TextMap}
    (matched : subject.pattern.match? path = some parameters) :
    shell.screenAt path =
      shell.screenOf path (some subject.pattern.text) (some subject.page) parameters := by
  rw [screenAt, table, (RouteTable.resolve_subject_iff shadowing keys subject path _).2 matched]

/-- The page about a subject is shown for the paths that its pattern matches, and for no others. -/
theorem screenAt_page_iff (table : shell.table = RouteTable.backlogTable shadowing keys)
    (subject : Subject) (path : String) :
    (shell.screenAt path).page = some subject.page ↔
      ∃ parameters, subject.pattern.match? path = some parameters := by
  constructor
  · intro shown
    rw [screenAt, table] at shown
    split at shown
    · next found resolved =>
      obtain ⟨route, parameters⟩ := found
      cases RouteTable.route_eq_of_page resolved (Option.some.inj shown)
      exact ⟨parameters, (RouteTable.resolve_subject_iff _ _ subject path _).1 resolved⟩
    · exact absurd shown (subject.fallbackPage_ne shell.fallback)
  · rintro ⟨parameters, matched⟩
    rw [screenAt_of_match? table matched]
    rfl

end Backlog

/-- The page about an account or a transaction is shown exactly for the links whose pathname is
the path to it with some identifier. The identifier is then the only parameter; the page shows it
as it is, and no notice, unless all of it is blank, when there is the notice alone. -/
theorem render_identifier {config : Config} {supply : StampSupply} {shell : Shell}
    (built : standard config supply = .ok shell) (link : String) (subject : Subject) :
    let screen := shell.render link
    let pathname := (Location.parse link).pathname
    (screen.page = some subject.page ↔
        ∃ identifier, Path.IsSolid identifier ∧ pathname = subject.path identifier) ∧
      ∀ identifier, Path.IsSolid identifier → pathname = subject.path identifier →
        screen.parameters = TextMap.ofList [(subject.parameter, identifier)] ∧
          ∃ content, screen.content = some content ∧
            ((∃ character ∈ identifier.toList, Text.isBlank character = false) →
              content.paragraphs = [subject.caption identifier] ∧ content.notices = []) ∧
            ((∀ character ∈ identifier.toList, Text.isBlank character = true) →
              content.paragraphs = [] ∧ content.notices = [subject.absence]) := by
  intro screen pathname
  have checked := (build_eq_ok_iff config _ _ _ shell).1 built
  have rooted : Path.IsRooted pathname := (Location.parse_wellFormed link).rooted
  have page : screen.page = some subject.page ↔
      ∃ identifier, Path.IsSolid identifier ∧ pathname = subject.path identifier := by
    refine (screenAt_page_iff checked.table_eq subject pathname).trans ?_
    exact subject.exists_match?_pattern_iff rooted
  refine ⟨page, fun identifier solid led => ?_⟩
  have matched := (subject.match?_pattern_iff rooted _).2 ⟨identifier, solid, led, rfl⟩
  have parameters : screen.parameters = TextMap.ofList [(subject.parameter, identifier)] :=
    congrArg Screen.parameters (screenAt_of_match? checked.table_eq matched)
  obtain ⟨view, registered, content⟩ :=
    exists_content_of_page checked (page.2 ⟨identifier, solid, led⟩)
  cases registered.symm.trans subject.standard_get?_page
  have captured : screen.parameters.get? subject.parameter = some identifier := by
    rw [parameters, TextMap.get?_ofList_singleton, if_pos rfl]
  refine ⟨parameters, _, content, fun worded => ?_, fun blank => ?_⟩
  · exact subject.render_view_of_some (TextMap.nonBlank?_eq_some captured worded)
  · exact subject.render_view_of_none (TextMap.nonBlank?_eq_none captured blank)

/-- The name of another page is an identifier like any other, and so is a text that is blank. -/
theorem render_identifier_market :
    ∃ shell, standard {} { stamp := fun _ => default } = .ok shell ∧
      let market := shell.render "market/portfolio?tab=holdings"
      let blank := shell.render "/transaction-history/ /details"
      (market.page = some .portfolio ∧
          market.parameters = TextMap.ofList [("accountId", "market")] ∧
          ∃ content, market.content = some content ∧
            content.paragraphs = ["Account market"] ∧ content.notices = []) ∧
        blank.page = some .transactionDetails ∧
          blank.parameters = TextMap.ofList [("transactionId", " ")] ∧
          ∃ content, blank.content = some content ∧
            content.paragraphs = [] ∧ content.notices = ["No transaction was specified."] := by
  obtain ⟨shell, built⟩ : ∃ shell, standard {} { stamp := fun _ => default } = .ok shell :=
    ⟨_, rfl⟩
  have toMarket : (Location.parse "market/portfolio?tab=holdings").pathname =
      Subject.account.path "market" := by decide +kernel
  have toSpace : (Location.parse "/transaction-history/ /details").pathname =
      Subject.transaction.path " " := by decide +kernel
  have market : Path.IsSolid "market" := ⟨by decide, by decide⟩
  have space : Path.IsSolid " " := ⟨by decide, by decide⟩
  obtain ⟨portfolio, shown⟩ := render_identifier built "market/portfolio?tab=holdings" .account
  obtain ⟨details, hidden⟩ := render_identifier built "/transaction-history/ /details" .transaction
  obtain ⟨account, first, firstContent, worded, _⟩ := shown "market" market toMarket
  obtain ⟨transaction, second, secondContent, _, blank⟩ := hidden " " space toSpace
  refine ⟨shell, built, ⟨portfolio.2 ⟨"market", market, toMarket⟩, account, first, firstContent, ?_⟩,
    details.2 ⟨" ", space, toSpace⟩, transaction, second, secondContent,
    blank (List.all_eq_true.1 (by decide))⟩
  have caption : Subject.account.caption "market" = "Account market" := by decide
  rw [← caption]
  exact worded ⟨'m', by decide, by decide⟩

end Shell

end Wayfinder
