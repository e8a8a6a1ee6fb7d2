/-
This file defines the registry of views. A view is registered under the page it says it renders,
and a later view of the same page takes the place of the earlier one, so that a page has at most
one view. What is registered is looked up by the page it is registered under.
-/
import Wayfinder.View

namespace Wayfinder

/-- The registered views, each with the page it is registered under, at most one for a page. -/
structure Registry where
  entries : List (Page × View)
  distinct : entries.Pairwise (·.1 ≠ ·.1) := by exact List.Pairwise.nil

/-- The reason why a page cannot be rendered: it has no view. -/
structure MissingView where
  page : Page
  deriving DecidableEq, Repr

/-- Why a page cannot be rendered, in words. -/
def MissingView.message (error : MissingView) : String :=
  "No view registered for page: " ++ error.page.label

namespace Registry

/-- The registry without views. -/
def empty : Registry where
  entries := []

/-- Register a view under its page, in the place of what is registered there. -/
def register (registry : Registry) (view : View) : Registry where
  entries := (view.page, view) :: registry.entries.filter (·.1 ≠ view.page)
  distinct := by
    refine List.pairwise_cons.2 ⟨fun other member => ?_, registry.distinct.filter _⟩
    exact Ne.symm (of_decide_eq_true (List.mem_filter.1 member).2)

/-- Register views from left to right. -/
def registerAll (registry : Registry) (views : List View) : Registry :=
  views.foldl register registry

/-- The view under a page. -/
def get? (registry : Registry) (page : Page) : Option View :=
  (registry.entries.find? (·.1 = page)).map Prod.snd

/-- The view under a page, which has to be there. -/
def require (registry : Registry) (page : Page) : Except MissingView View :=
  match registry.get? page with
  | some view => .ok view
  | none => .error ⟨page⟩

/-- Whether a page has a view. -/
def contains (registry : Registry) (page : Page) : Bool :=
  registry.entries.any (·.1 = page)

/-- The number of pages that have a view. -/
def size (registry : Registry) : Nat :=
  registry.entries.length

/-- Whether no page has a view. -/
def isEmpty (registry : Registry) : Bool :=
  registry.entries.isEmpty

/-- The views of the application: those of the active pages, the one for unknown addresses, and
a placeholder for every planned page. -/
def standardViews : List View :=
  [.login, .transactionHistory, .transactionDetails, .portfolio, .market,
    .placeholder Placeholder.orderHistory, .notFound] ++
    Page.backlog.map fun page => .placeholder (Placeholder.comingSoon page)

/-- The registry with the views of the application. -/
def standard : Registry :=
  empty.registerAll standardViews

end Registry

end Wayfinder
