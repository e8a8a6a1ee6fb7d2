/-
This file defines what a screen shows: the location that was asked for, the page it led to, the
content of that page as a list of blocks, and the chrome around it -- the side navigation and
the header bar.
-/
import Wayfinder.Page
import Wayfinder.TextMap

namespace Wayfinder

/-- One element of a page. -/
inductive Block where
  | heading (text : String)
  | paragraph (text : String)
  | icon (name : String)
  | notice (text : String)
  | form (name : String) (fields : List String)
  | table (name : String) (columns : List String)
  deriving DecidableEq, Repr

/-- The text of a block that is read as running text. -/
def Block.runningText? : Block → Option String
  | heading text => some text
  | paragraph text => some text
  | notice text => some text
  | icon _ => none
  | form _ _ => none
  | table _ _ => none

/-- The content of a page: a title, and blocks from top to bottom. -/
structure Content where
  title : String
  blocks : List Block
  deriving DecidableEq, Repr

namespace Content

/-- The content of a page without blocks. -/
def ofTitle (title : String) : Content where
  title := title
  blocks := []

/-- The content with one more block at its end. -/
def add (content : Content) (block : Block) : Content :=
  { content with blocks := content.blocks ++ [block] }

/-- The running text of a page, one line for each block that has any. -/
def plainText (content : Content) : String :=
  "\n".intercalate (content.blocks.filterMap Block.runningText?)

end Content

/-- A link of the side navigation. -/
structure NavigationLink where
  label : String
  href : String
  active : Bool
  deriving DecidableEq, Repr

/-- The bar above a page. -/
structure HeaderBar where
  appTitle : String
  pageTitle : Option String
  deriving DecidableEq, Repr

/-- What surrounds a page. -/
structure ChromeFrame where
  sideNavigation : List NavigationLink
  header : HeaderBar
  deriving DecidableEq, Repr

/-- What the application shows for a location: the route that matched, the page, the parameters
captured from the path, and what there is to see. -/
structure Screen where
  pathname : String
  pattern : Option String
  page : Option Page
  parameters : TextMap
  chrome : Option ChromeFrame
  content : Option Content
  deriving DecidableEq, Repr

namespace Screen

/-- Whether the page is surrounded by chrome. -/
def hasChrome (screen : Screen) : Bool :=
  screen.chrome.isSome

/-- Whether a route matched. -/
def isMatched (screen : Screen) : Bool :=
  screen.pattern.isSome

end Screen

end Wayfinder
