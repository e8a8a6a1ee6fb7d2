/-
This file defines the configuration of an application, section by section. Every setting has a
default, so that a configuration only has to say what differs from it.
-/
import Wayfinder.AppContext
import Wayfinder.Chrome
import Wayfinder.RouteTable

namespace Wayfinder

/-- What is shown for a path that no route matches: the page for unknown addresses, or
nothing. -/
inductive Fallback where
  | notFound
  | blank
  deriving DecidableEq, Repr, Inhabited

namespace Config

/-- The settings of the routes. The backlog holds the keys of the planned routes to enable. -/
structure RoutingSection where
  fallback : Fallback := .notFound
  shadowing : Shadowing := .warn
  backlog : List String := []
  deriving DecidableEq, Repr

/-- The settings of the chrome. -/
structure ChromeSection where
  mode : Chrome.Mode := .pathGated
  paths : List String := ["/home", "/wallet", "/support", "/setting"]
  links : List Chrome.Link :=
    [⟨"Home", "/home"⟩, ⟨"Market", "/market"⟩, ⟨"Order History", "/order-history"⟩,
      ⟨"Transactions", "/transaction-history"⟩, ⟨"Wallet", "/wallet"⟩, ⟨"Support", "/support"⟩,
      ⟨"Settings", "/setting"⟩]
  deriving DecidableEq, Repr

/-- The settings of the history. -/
structure HistorySection where
  capacity : Nat := 100
  deriving DecidableEq, Repr

end Config

/-- The configuration of an application. The context section is the seed of the context. -/
structure Config where
  routing : Config.RoutingSection := {}
  chrome : Config.ChromeSection := {}
  history : Config.HistorySection := {}
  context : ContextSeed := {}
  deriving DecidableEq, Repr

/-- The policy of a chrome section. -/
def Config.ChromeSection.policy (settings : Config.ChromeSection) : Chrome.Policy where
  mode := settings.mode
  paths := settings.paths

end Wayfinder
