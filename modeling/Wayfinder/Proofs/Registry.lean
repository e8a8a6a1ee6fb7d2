/-
This file says what a registry holds after any sequence of registrations, whether it was empty at
first or held the views of the application. For a page it holds the last view that was registered
for it, and what it is asked for a page is answered by that view; and it counts every page once,
however many views were registered for it.
-/
import Mathlib.Data.Finset.Card
import Wayfinder.Proofs.Building

namespace Wayfinder.Registry

/-- The pages that have a view. -/
def pages (registry : Registry) : List Page :=
  registry.entries.map Prod.fst

/-! ### One registry -/

section Answers

variable (registry : Registry) (page : Page)

theorem contains_iff : registry.contains page = true ↔ ∃ view, registry.get? page = some view := by
  rw [contains_eq_isSome, Option.isSome_iff_exists]

theorem require_eq_ok_iff (view : View) :
    registry.require page = .ok view ↔ registry.get? page = some view := by
  rw [require]
  cases registry.get? page <;> simp

theorem require_eq_error_iff (error : MissingView) :
    registry.require page = .error error ↔ registry.get? page = none ∧ error = ⟨page⟩ := by
  rw [require]
  cases registry.get? page <;> simp [eq_comm]

theorem mem_pages_iff : page ∈ registry.pages ↔ registry.contains page = true := by
  simp [pages, contains]

theorem pages_nodup : registry.pages.Nodup :=
  List.pairwise_map.2 registry.distinct

/-- The size is the number of pages that have a view. -/
theorem size_eq_card : registry.size = registry.pages.toFinset.card := by
  rw [List.toFinset_card_of_nodup registry.pages_nodup, pages, List.length_map, size]

end Answers

/-! ### What is found under a page -/

/-- Every view is registered under the page that it says it renders. -/
def IsFiled (registry : Registry) : Prop :=
  ∀ entry ∈ registry.entries, entry.2.page = entry.1

theorem empty_isFiled : empty.IsFiled :=
  fun _ member => (List.not_mem_nil member).elim

/-- A view is registered under its page, and whatever it does not replace stays where it is. -/
theorem IsFiled.register {registry : Registry} (filed : registry.IsFiled) (view : View) :
    (registry.register view).IsFiled :=
  List.forall_mem_cons.2 ⟨rfl, fun entry member => filed entry (List.mem_of_mem_filter member)⟩

theorem IsFiled.registerAll {registry : Registry} (filed : registry.IsFiled) (views : List View) :
    (registry.registerAll views).IsFiled := by
  induction views generalizing registry with
  | nil => exact filed
  | cons view rest inductionHypothesis => exact inductionHypothesis (filed.register view)

/-- What is found under a page is a view of that page. -/
theorem IsFiled.page_of_get? {registry : Registry} (filed : registry.IsFiled) {page : Page}
    {view : View} (found : registry.get? page = some view) : view.page = page := by
  obtain ⟨entry, here, rfl⟩ := Option.map_eq_some_iff.1 found
  have under := List.find?_some here
  exact (filed entry (List.mem_of_find?_eq_some here)).trans (of_decide_eq_true under)

/-! ### Sequences of registrations -/

/-- A registry holds the last of some views for each page, answers with it, and counts the pages of
the views. -/
structure Holds (registry : Registry) (views : List View) : Prop where
  found : ∀ page view, registry.get? page = some view ↔ IsLast views page view
  missing : ∀ page, registry.get? page = none ↔ ∀ view ∈ views, view.page ≠ page
  own : ∀ page view, registry.get? page = some view → view.page = page
  contained : ∀ page, registry.contains page = true ↔ ∃ view, registry.get? page = some view
  required : ∀ page view, registry.require page = .ok view ↔ registry.get? page = some view
  refused : ∀ page error, registry.require page = .error error ↔
    registry.get? page = none ∧ error = ⟨page⟩
  size : registry.size = (views.map View.page).toFinset.card

theorem mem_pages_registerAll_iff (views : List View) (page : Page) :
    page ∈ (empty.registerAll views).pages ↔ page ∈ views.map View.page := by
  rw [mem_pages_iff, contains_registerAll_iff, List.mem_map, HasView]

/-- A page is missing when none of the registered views renders it. -/
theorem get?_registerAll_eq_none_iff (views : List View) (page : Page) :
    (empty.registerAll views).get? page = none ↔ ∀ view ∈ views, view.page ≠ page := by
  rw [get?_registerAll_empty, List.find?_eq_none]
  simp only [List.mem_reverse, decide_eq_true_eq, ne_eq]

theorem size_registerAll (views : List View) :
    (empty.registerAll views).size = (views.map View.page).toFinset.card := by
  rw [size_eq_card]
  refine congrArg Finset.card (Finset.ext fun page => ?_)
  rw [List.mem_toFinset, List.mem_toFinset, mem_pages_registerAll_iff]

theorem registerAll_holds (views : List View) : (empty.registerAll views).Holds views where
  found := get?_registerAll_eq_some_iff views
  missing := get?_registerAll_eq_none_iff views
  own := fun _ _ => (empty_isFiled.registerAll views).page_of_get?
  contained := contains_iff _
  required := require_eq_ok_iff _
  refused := require_eq_error_iff _
  size := size_registerAll views

/-- The last view of a page wins. After any sequence of registrations, in a registry without views
or in the one with the views of the application, a page has the view that was registered last for
it, or none if there was none; what can be asked about a page agrees with that, and the size is the
number of pages that some registered view renders. -/
theorem last_registered_wins (views : List View) :
    (empty.registerAll views).Holds views ∧
      (standard.registerAll views).Holds (standardViews ++ views) := by
  rw [standard_registerAll]
  exact ⟨registerAll_holds views, registerAll_holds (standardViews ++ views)⟩

-- A placeholder takes the place of the page to sign in, and does not add to the size.
example : (standard.register (.placeholder (Placeholder.comingSoon .login))).size = 26 := by
  decide

end Wayfinder.Registry
