/-
This file defines the shell: the part of the application that turns links into screens and keeps
the history of a session. Building a shell checks that every page it can be asked for has a
view, so that a page never lacks its content later. A screen depends on the location alone; only
the history depends on what happened before.
-/
import Wayfinder.Config
import Wayfinder.History
import Wayfinder.Registry

namespace Wayfinder

/-- Why a shell cannot be built: a route cannot be registered, or a page has no view. -/
inductive ShellError where
  | route (error : RouteError)
  | view (error : MissingView)
  deriving DecidableEq, Repr

/-- Why a shell cannot be built, in words. -/
def ShellError.message : ShellError → String
  | route error => "Router error: " ++ error.message
  | view error => error.message

/-- The messages of an error and of its causes, outermost first. -/
def ShellError.chain : ShellError → List String
  | route error => [(route error).message, error.message]
  | view error => [(view error).message]

/-- A running application: what it shows for a location, and the history of the session. -/
structure Shell where
  table : RouteTable
  fallback : Fallback
  chromePolicy : Chrome.Policy
  chromeLinks : List Chrome.Link
  registry : Registry
  context : AppContext
  history : History
  supply : StampSupply

namespace Shell

/-- The page for a path that no route matches. -/
def fallbackPage : Fallback → Option Page
  | .notFound => some .notFound
  | .blank => none

/-- The first of some pages that has no view. -/
def firstMissing? (registry : Registry) (pages : List Page) : Option Page :=
  pages.find? fun page => !registry.contains page

/-- Build a shell with an empty history. The pages that need a view are those of the routes, in
their order, and the page of the fallback. -/
def build (config : Config) (registry : Registry) (context : AppContext) (supply : StampSupply) :
    Except ShellError Shell :=
  match RouteTable.withBacklog config.routing.shadowing config.routing.backlog with
  | .error error => .error (.route error)
  | .ok table =>
    let needed :=
      table.routes.map Route.page ++ (fallbackPage config.routing.fallback).toList
    match firstMissing? registry needed with
    | some page => .error (.view ⟨page⟩)
    | none =>
      .ok
        { table := table
          fallback := config.routing.fallback
          chromePolicy := config.chrome.policy
          chromeLinks := config.chrome.links
          registry := registry
          context := context
          history := History.ofCapacity config.history.capacity
          supply := supply }

/-- Build a shell with a context of its own, whose stamp is the first one drawn. -/
def ofConfig (config : Config) (registry : Registry) (supply : StampSupply) :
    Except ShellError Shell :=
  build config registry (AppContext.ofSeed config.context supply.next) supply.advance

/-- Build a shell with the views of the application. -/
def standard (config : Config) (supply : StampSupply) : Except ShellError Shell :=
  ofConfig config Registry.standard supply

/-! ### Screens -/

/-- The screen of a page at a pathname, with the pattern of the route and its parameters. -/
def screenOf (shell : Shell) (pathname : String) (pattern : Option String) (page : Option Page)
    (parameters : TextMap) : Screen where
  pathname := pathname
  pattern := pattern
  page := page
  parameters := parameters
  chrome :=
    if shell.chromePolicy.shows pathname then
      some (Chrome.frame shell.chromeLinks pathname page shell.context)
    else none
  content :=
    (page.bind shell.registry.get?).map (·.render ⟨pathname, parameters, shell.context⟩)

/-- The screen at a pathname: the page of the first route that matches, or the fallback. -/
def screenAt (shell : Shell) (pathname : String) : Screen :=
  match shell.table.resolve pathname with
  | some found =>
    shell.screenOf pathname (some found.route.pattern.text) (some found.route.page)
      found.parameters
  | none => shell.screenOf pathname none (fallbackPage shell.fallback) TextMap.empty

/-- The screen that a link leads to. -/
def render (shell : Shell) (link : String) : Screen :=
  shell.screenAt (Location.parse link).pathname

/-! ### Navigation -/

/-- Follow a link: the location becomes a new visit. -/
def navigate (shell : Shell) (link : String) : Screen × Shell :=
  let location := Location.parse link
  (shell.screenAt location.pathname,
    { shell with
      history := shell.history.push ⟨shell.supply.next, location⟩
      supply := shell.supply.advance })

/-- Follow a link in the place of the current visit. -/
def replace (shell : Shell) (link : String) : Screen × Shell :=
  let location := Location.parse link
  (shell.screenAt location.pathname,
    { shell with
      history := shell.history.replace ⟨shell.supply.next, location⟩
      supply := shell.supply.advance })

/-- The screen of the current visit. -/
def current? (shell : Shell) : Option Screen :=
  shell.history.current?.map (shell.screenAt ·.location.pathname)

/-- The shell with another history, and the screen of the visit that is current there. -/
def moveTo? (shell : Shell) (history : History) : Option (Screen × Shell) :=
  let moved := { shell with history := history }
  moved.current?.map fun screen => (screen, moved)

/-- Return to the next older visit. -/
def back? (shell : Shell) : Option (Screen × Shell) :=
  shell.history.back?.bind shell.moveTo?

/-- Go on to the next newer visit. -/
def forward? (shell : Shell) : Option (Screen × Shell) :=
  shell.history.forward?.bind shell.moveTo?

end Shell

end Wayfinder
