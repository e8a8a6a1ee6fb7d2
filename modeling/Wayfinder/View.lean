/-
This file defines what it takes to render a page, and the views of the application. Anything that
renders a page can be a view. Each page with a function of its own has a view of its own; every
other page can be given a placeholder, which announces what is planned there. A view that needs a
parameter shows a notice instead when the parameter is missing or blank.
-/
import Wayfinder.AppContext
import Wayfinder.Screen

namespace Wayfinder

/-- A page that only says what is planned. It keeps a copy of the title that its page has. -/
structure Placeholder where
  page : Page
  title : String
  description : String
  icon : String
  notice : String
  titled : title = page.title
  deriving DecidableEq, Repr

namespace Placeholder

/-- The placeholder for a page, which takes over the title of the page. -/
def ofPage (page : Page) (description icon notice : String) : Placeholder where
  page := page
  title := page.title
  description := description
  icon := icon
  notice := notice
  titled := rfl

/-- The placeholder for the history of orders. -/
def orderHistory : Placeholder :=
  ofPage .orderHistory "This page will display a history of all your stock orders." "file-text"
    "Order history functionality is coming soon!"

/-- The placeholder for a planned page. -/
def comingSoon (page : Page) : Placeholder :=
  ofPage page ("The " ++ page.title ++ " page is planned but not yet available.") "clock"
    (page.title ++ " functionality is coming soon!")

end Placeholder

/-- What a view can look at: where it is rendered, the parameters of the route, and the context
of the session. -/
structure Surroundings where
  pathname : String
  parameters : TextMap
  context : AppContext

/-- A way to render a page: which page it is, and the content it has in given surroundings. -/
structure View where
  page : Page
  render : Surroundings → Content

namespace View

/-- The content that a page starts with: its title, and again as a heading. -/
def heading (page : Page) : Content :=
  (Content.ofTitle page.title).add (.heading page.title)

/-- The view of the page to sign in. -/
def login : View where
  page := .login
  render surroundings :=
    heading .login
      |>.add (.paragraph ("Sign in to " ++ surroundings.context.appTitle ++ "."))
      |>.add (.form "login" ["username", "password"])

/-- The view of the list of transactions. -/
def transactionHistory : View where
  page := .transactionHistory
  render _ :=
    (heading .transactionHistory).add
      (.table "transactions" ["date", "type", "symbol", "quantity", "amount", "status"])

/-- The view of one transaction. -/
def transactionDetails : View where
  page := .transactionDetails
  render surroundings :=
    let content := heading .transactionDetails
    match surroundings.parameters.nonBlank? "transactionId" with
    | some identifier =>
      content
        |>.add (.paragraph ("Transaction " ++ identifier))
        |>.add (.table "transaction" ["field", "value"])
    | none => content.add (.notice "No transaction was specified.")

/-- The view of what an account holds. -/
def portfolio : View where
  page := .portfolio
  render surroundings :=
    let content := heading .portfolio
    match surroundings.parameters.nonBlank? "accountId" with
    | some account =>
      content
        |>.add (.paragraph ("Account " ++ account))
        |>.add (.table "holdings" ["symbol", "quantity", "average_price", "market_value"])
    | none => content.add (.notice "No account was specified.")

/-- The view of the market, with a form for orders. -/
def market : View where
  page := .market
  render _ :=
    heading .market
      |>.add (.table "stocks" ["symbol", "name", "price", "change"])
      |>.add (.form "order" ["symbol", "side", "quantity", "price"])

/-- The view for unknown addresses. -/
def notFound : View where
  page := .notFound
  render surroundings :=
    (heading .notFound).add (.paragraph ("No page exists at " ++ surroundings.pathname ++ "."))

/-- The view that announces what is planned. -/
def placeholder (announced : Placeholder) : View where
  page := announced.page
  render _ :=
    Content.ofTitle announced.title
      |>.add (.heading announced.title)
      |>.add (.paragraph announced.description)
      |>.add (.icon announced.icon)
      |>.add (.notice announced.notice)

end View

end Wayfinder
