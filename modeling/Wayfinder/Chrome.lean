/-
This file decides where a page has chrome around it, and builds that chrome. The decision looks
at the pathname alone, by exact comparison with a list of paths, or not even at that.
-/
import Wayfinder.AppContext
import Wayfinder.Screen

namespace Wayfinder.Chrome

/-- When pages have chrome: for listed paths only, always, or never. -/
inductive Mode where
  | pathGated
  | always
  | never
  deriving DecidableEq, Repr, Inhabited

/-- A link that the side navigation offers. -/
structure Link where
  label : String
  href : String
  deriving DecidableEq, Repr

/-- The rule for when a page has chrome. -/
structure Policy where
  mode : Mode
  paths : List String
  deriving DecidableEq, Repr

/-- Whether the page at a pathname has chrome. -/
def Policy.shows (policy : Policy) (pathname : String) : Bool :=
  match policy.mode with
  | .pathGated => policy.paths.contains pathname
  | .always => true
  | .never => false

/-- The chrome around a page. The link to the current pathname is the active one, and the header
carries the title of the page, if there is a page. -/
def frame (links : List Link) (pathname : String) (page : Option Page) (context : AppContext) :
    ChromeFrame where
  sideNavigation := links.map fun link => ⟨link.label, link.href, link.href == pathname⟩
  header := ⟨context.appTitle, page.map Page.title⟩

end Wayfinder.Chrome
