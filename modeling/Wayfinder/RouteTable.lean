/-
This file defines route tables. Routes are registered one by one, and a path is resolved by the
first route that matches it. A route is shadowed when an earlier one covers it: no path can ever
reach it. A table either keeps such routes or rejects them, as its policy says.
-/
import Wayfinder.Catalogue
import Wayfinder.Pattern
import Wayfinder.Text.Quoted

namespace Wayfinder

/-- What a table does with a route that an earlier one shadows: keep it with a warning, or
reject it. -/
inductive Shadowing where
  | warn
  | reject
  deriving DecidableEq, Repr, Inhabited

/-- A registered route. -/
structure Route where
  pattern : Pattern
  page : Page
  deriving DecidableEq, Repr

/-- Why a route cannot be registered. -/
inductive RouteError where
  | invalidPattern (pattern : String) (reason : PatternError)
  | shadowed (pattern earlier : String)
  | unknownKey (key : String)
  deriving DecidableEq, Repr

/-- Why a route cannot be registered, in words. -/
def RouteError.message : RouteError → String
  | invalidPattern pattern reason =>
    "Invalid route pattern " ++ Text.quote pattern ++ ": " ++ reason.message
  | shadowed pattern earlier =>
    "Route " ++ pattern ++ " is unreachable: shadowed by earlier route " ++ earlier
  | unknownKey key => "Unknown backlog route: " ++ key

/-- The routes of an application, in the order in which they are tried. -/
structure RouteTable where
  shadowing : Shadowing
  routes : List Route
  deriving DecidableEq, Repr

/-- A route together with the parameters it captured from a path. -/
structure RouteMatch where
  route : Route
  parameters : TextMap
  deriving DecidableEq, Repr

namespace RouteTable

/-- The table without routes. -/
def empty (shadowing : Shadowing) : RouteTable where
  shadowing := shadowing
  routes := []

/-- The first route that covers a pattern. -/
def coveredBy? (table : RouteTable) (pattern : Pattern) : Option Route :=
  table.routes.find? (·.pattern.covers pattern)

/-- The table with one more route at the end. -/
def append (table : RouteTable) (route : Route) : RouteTable :=
  { table with routes := table.routes ++ [route] }

/-- Register a route under the text of its pattern: whether this succeeds, and the table after
it. -/
def register (table : RouteTable) (text : String) (page : Page) :
    Except RouteError Unit × RouteTable :=
  match Pattern.parse text with
  | .error reason => (.error (.invalidPattern text reason), table)
  | .ok pattern =>
    match table.shadowing, table.coveredBy? pattern with
    | .reject, some earlier => (.error (.shadowed pattern.text earlier.pattern.text), table)
    | _, _ => (.ok (), table.append ⟨pattern, page⟩)

/-- Register declared routes from left to right, up to the first that fails. -/
def registerAll (table : RouteTable) : List Declaration → Except RouteError RouteTable
  | [] => .ok table
  | declaration :: rest =>
    match table.register declaration.pattern declaration.page with
    | (.error error, _) => .error error
    | (.ok _, extended) => extended.registerAll rest

/-- Register planned routes by their keys from left to right, up to the first that fails. -/
def enableAll (table : RouteTable) : List String → Except RouteError RouteTable
  | [] => .ok table
  | key :: rest =>
    match Catalogue.planned? key with
    | none => .error (.unknownKey key)
    | some planned =>
      match table.register planned.declaration.pattern planned.declaration.page with
      | (.error error, _) => .error error
      | (.ok _, extended) => extended.enableAll rest

/-- The table of declared routes. -/
def ofDeclarations (shadowing : Shadowing) (declarations : List Declaration) :
    Except RouteError RouteTable :=
  (empty shadowing).registerAll declarations

/-- The table of the active routes and of the planned routes with the given keys. -/
def withBacklog (shadowing : Shadowing) (keys : List String) : Except RouteError RouteTable :=
  match ofDeclarations shadowing Catalogue.activeRoutes with
  | .error error => .error error
  | .ok table => table.enableAll keys

/-- The first match of a path. -/
def resolve (table : RouteTable) (path : String) : Option RouteMatch :=
  table.routes.findSome? fun route => (route.pattern.match? path).map (RouteMatch.mk route)

/-- The routes as they would be declared. -/
def declarations (table : RouteTable) : List Declaration :=
  table.routes.map fun route => ⟨route.pattern.text, route.page⟩

/-- The number of routes. -/
def size (table : RouteTable) : Nat :=
  table.routes.length

end RouteTable

end Wayfinder
