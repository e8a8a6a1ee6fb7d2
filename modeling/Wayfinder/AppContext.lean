/-
This file defines the context that every page of a session shares: who the session is, when it
started, what the application calls itself, and any further attributes by name.
-/
import Wayfinder.Stamp
import Wayfinder.TextMap

namespace Wayfinder

/-- What a context is made from: the title of the application and further attributes. -/
structure ContextSeed where
  appTitle : String := "TradeDesk"
  attributes : TextMap := TextMap.empty
  deriving DecidableEq, Repr

/-- The context of a session. -/
structure AppContext where
  session : Stamp
  appTitle : String
  attributes : TextMap
  deriving DecidableEq, Repr

namespace AppContext

/-- The context that a session with a given stamp has. -/
def ofSeed (seed : ContextSeed) (session : Stamp) : AppContext where
  session := session
  appTitle := seed.appTitle
  attributes := seed.attributes

/-- The attribute of a name. -/
def attribute? (context : AppContext) (name : String) : Option String :=
  context.attributes.get? name

end AppContext

end Wayfinder
