/-
This file proves that a screen says one title everywhere. The title of a page comes to a screen in
three ways: a view writes it above its content and again as a heading, a placeholder shows the copy
that it took when it was made, and the header bar reads it off the page. A view of the application
writes the title of the page that it says it renders; and a registry gives for a page only a view
that says so, whatever was registered in what order. So all three are the title of the page that
the screen shows.
-/
import Wayfinder.Proofs.Noninterference
import Wayfinder.Proofs.Rendering

namespace Wayfinder

/-! ### The top of a page -/

/-- The content shows a title, and starts with it as a heading. -/
structure Content.IsTitled (content : Content) (title : String) : Prop where
  written : content.title = title
  heading : content.blocks.head? = some (.heading title)

namespace Content

theorem ofTitle_isTitled (title : String) : ((ofTitle title).add (.heading title)).IsTitled title :=
  ⟨rfl, rfl⟩

/-- Blocks are added below the heading. -/
theorem IsTitled.add {content : Content} {title : String} (titled : content.IsTitled title)
    (block : Block) : (content.add block).IsTitled title where
  written := titled.written
  heading := by rw [Content.add, List.head?_append, titled.heading, Option.some_or]

end Content

namespace View

theorem heading_isTitled (page : Page) : (heading page).IsTitled page.title :=
  Content.ofTitle_isTitled page.title

/-- A view of the application writes the title of the page that it renders. -/
theorem IsOwn.render_isTitled {view : View} (own : view.IsOwn) (surroundings : Surroundings) :
    (view.render surroundings).IsTitled view.page.title := by
  cases own with
  | login => exact ((heading_isTitled .login).add _).add _
  | transactionHistory => exact (heading_isTitled .transactionHistory).add _
  | transactionDetails =>
    have titled := heading_isTitled .transactionDetails
    unfold View.transactionDetails
    dsimp only
    split
    · exact (titled.add _).add _
    · exact titled.add _
  | portfolio =>
    have titled := heading_isTitled .portfolio
    unfold View.portfolio
    dsimp only
    split
    · exact (titled.add _).add _
    · exact titled.add _
  | market => exact ((heading_isTitled .market).add _).add _
  | notFound => exact (heading_isTitled .notFound).add _
  | placeholder announced =>
    -- The copy that the placeholder took when it was made is the title of its page.
    show ((View.placeholder announced).render surroundings).IsTitled announced.page.title
    rw [← announced.titled]
    exact (((Content.ofTitle_isTitled announced.title).add _).add _).add _

end View

namespace Shell

/-! ### The parts of a screen that carry the title -/

/-- The header bar has the title of the page of the screen. -/
theorem pageTitle_of_chrome {shell : Shell} {path : String} {frame : ChromeFrame}
    (framed : (shell.screenAt path).chrome = some frame) :
    frame.header.pageTitle = (shell.screenAt path).page.map Page.title := by
  rw [screenAt_chrome] at framed
  split at framed
  · cases framed
    rfl
  · cases framed

/-- The content of a screen is what a registered view renders, and the page of the screen is the
one under which the view is registered. -/
theorem exists_view_of_content {shell : Shell} {path : String} {content : Content}
    (shown : (shell.screenAt path).content = some content) :
    ∃ page view, (shell.screenAt path).page = some page ∧ shell.registry.get? page = some view ∧
      content = view.render ⟨path, (shell.screenAt path).parameters, shell.context⟩ := by
  rw [screenAt_content, Option.map_eq_some_iff] at shown
  obtain ⟨view, found, rendered⟩ := shown
  obtain ⟨page, onPage, registered⟩ := Option.bind_eq_some_iff.1 found
  exact ⟨page, view, onPage, registered, rendered.symm⟩

/-! ### Whole screens -/

/-- A screen says one title everywhere. Take any configuration and any views of the application,
registered in any order, with which a shell can be built. For every link, if the screen has content
then it has a page, the content has the title of that page and starts with it as a heading, and the
header bar, if there is one, has that title too. On a screen without a page the header bar has no
title. -/
theorem render_titles_agree {config : Config} {views : List View}
    (own : ∀ view ∈ views, view.IsOwn) {context : AppContext} {supply : StampSupply}
    {shell : Shell} (built : build config (Registry.empty.registerAll views) context supply =
      .ok shell) (link : String) :
    let screen := shell.render link
    (∀ content, screen.content = some content →
        (∃ page, screen.page = some page ∧ content.title = page.title) ∧
          content.blocks.head? = some (.heading content.title) ∧
          ∀ frame, screen.chrome = some frame → frame.header.pageTitle = some content.title) ∧
      (screen.page = none →
        ∀ frame, screen.chrome = some frame → frame.header.pageTitle = none) := by
  intro screen
  have registry : shell.registry = Registry.empty.registerAll views :=
    congrArg Shell.registry ((build_eq_ok_iff config _ context supply shell).1 built).state
  refine ⟨fun content shown => ?_, fun blank frame framed => ?_⟩
  · obtain ⟨page, view, onPage, registered, rendered⟩ := exists_view_of_content shown
    rw [registry] at registered
    obtain ⟨earlier, later, rfl, rfl, _⟩ :=
      (Registry.get?_registerAll_eq_some_iff views page view).1 registered
    have titled : content.IsTitled view.page.title := by
      rw [rendered]
      exact (own view (List.mem_append_right _ List.mem_cons_self)).render_isTitled _
    refine ⟨⟨_, onPage, titled.written⟩, ?_, fun frame framed => ?_⟩
    · rw [titled.heading, titled.written]
    · rw [pageTitle_of_chrome framed, onPage, titled.written]
      rfl
  · rw [pageTitle_of_chrome framed]
    exact congrArg (Option.map Page.title) blank

/-- A placeholder that takes the place of the page to sign in keeps the title of that page. -/
theorem render_titles_agree_replaced_login :
    let views := Registry.standardViews ++ [.placeholder (.ofPage .login "Closed." "lock" "Later.")]
    let context : AppContext := ⟨default, "TradeDesk", TextMap.empty⟩
    (∀ view ∈ views, view.IsOwn) ∧
      ∃ shell content, build {} (Registry.empty.registerAll views) context
          { stamp := fun _ => default } = .ok shell ∧
        let screen := shell.render "/"
        screen.content = some content ∧
          (∃ page, screen.page = some page ∧ content.title = page.title) ∧
          content.blocks.head? = some (.heading content.title) ∧
          ∀ frame, screen.chrome = some frame → frame.header.pageTitle = some content.title := by
  intro views context
  have own : ∀ view ∈ views, view.IsOwn := by
    rw [List.forall_mem_append, List.forall_mem_singleton]
    exact ⟨View.isOwn_standardViews, .placeholder _⟩
  obtain ⟨shell, content, built, shown⟩ : ∃ shell content,
      build {} (Registry.empty.registerAll views) context { stamp := fun _ => default } =
        .ok shell ∧ (shell.render "/").content = some content :=
    ⟨_, _, rfl, rfl⟩
  exact ⟨own, shell, content, built, shown, (render_titles_agree own built "/").1 content shown⟩

end Shell

end Wayfinder
