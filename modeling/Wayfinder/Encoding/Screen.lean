/-
This file writes screens, and everything on them, as plain data, and reads them back. Reading is
as tolerant as the data format allows, and undoes writing: the fields of a record have the same
names on both sides.
-/
import Wayfinder.Catalogue
import Wayfinder.Json.Reader
import Wayfinder.Location
import Wayfinder.Screen

namespace Wayfinder

open Datum (text texts)

/-- The fields of a record of which none may be left out. -/
def Datum.allFields? (names : List String) (datum : Datum) : Option Datum.Fields :=
  datum.fields? Json.leniency names false

/-! ### Pages and routes -/

/-- A page, as its name. -/
def Page.toDatum (page : Page) : Datum :=
  text page.name

/-- The page of a choice. -/
def Page.ofDatum? (datum : Datum) : Option Page :=
  (datum.choice? Json.leniency).bind Page.ofName?

/-- A declared route. -/
def Declaration.toDatum (declaration : Declaration) : Datum :=
  .record [("pattern", text declaration.pattern), ("page", declaration.page.toDatum)]

/-- The declared route of a datum. -/
def Declaration.ofDatum? (datum : Datum) : Option Declaration := do
  let fields ← datum.allFields? ["pattern", "page"]
  let pattern ← fields.required "pattern" Datum.text?
  let page ← fields.required "page" Page.ofDatum?
  return ⟨pattern, page⟩

/-- A map from names to texts, in the order of the names. -/
def TextMap.toDatum (map : TextMap) : Datum :=
  .record (map.entries.map fun entry => (entry.1, text entry.2))

/-- A location. -/
def Location.toDatum (location : Location) : Datum :=
  .record [("pathname", text location.pathname), ("search", text location.search),
    ("hash", text location.hash)]

/-- The location of a datum. -/
def Location.ofDatum? (datum : Datum) : Option Location := do
  let fields ← datum.allFields? ["pathname", "search", "hash"]
  let pathname ← fields.required "pathname" Datum.text?
  let search ← fields.required "search" Datum.text?
  let hash ← fields.required "hash" Datum.text?
  return ⟨pathname, search, hash⟩

/-! ### Content -/

/-- A block, as a record that says its kind first. -/
def Block.toDatum : Block → Datum
  | heading value => .record [("kind", text "heading"), ("text", text value)]
  | paragraph value => .record [("kind", text "text"), ("text", text value)]
  | icon name => .record [("kind", text "icon"), ("name", text name)]
  | notice value => .record [("kind", text "notice"), ("text", text value)]
  | form name fields =>
    .record [("kind", text "form"), ("name", text name), ("fields", texts fields)]
  | table name columns =>
    .record [("kind", text "table"), ("name", text name), ("columns", texts columns)]

/-- The kind of a block, which stands in its first item or in its member of that name. -/
def Block.kind? : Datum → Option String
  | .record members => (Datum.member? "kind" members).bind Datum.text?
  | .list (kind :: _) => kind.text?
  | _ => none

/-- The block of a datum. -/
def Block.ofDatum? (datum : Datum) : Option Block := do
  match ← Block.kind? datum with
  | "heading" =>
    let fields ← datum.allFields? ["kind", "text"]
    return heading (← fields.required "text" Datum.text?)
  | "text" =>
    let fields ← datum.allFields? ["kind", "text"]
    return paragraph (← fields.required "text" Datum.text?)
  | "icon" =>
    let fields ← datum.allFields? ["kind", "name"]
    return icon (← fields.required "name" Datum.text?)
  | "notice" =>
    let fields ← datum.allFields? ["kind", "text"]
    return notice (← fields.required "text" Datum.text?)
  | "form" =>
    let fields ← datum.allFields? ["kind", "name", "fields"]
    let name ← fields.required "name" Datum.text?
    return form name (← fields.required "fields" (Datum.list? Datum.text?))
  | "table" =>
    let fields ← datum.allFields? ["kind", "name", "columns"]
    let name ← fields.required "name" Datum.text?
    return table name (← fields.required "columns" (Datum.list? Datum.text?))
  | _ => none

/-- The content of a page. -/
def Content.toDatum (content : Content) : Datum :=
  .record [("title", text content.title), ("blocks", .list (content.blocks.map Block.toDatum))]

/-- The content of a datum. -/
def Content.ofDatum? (datum : Datum) : Option Content := do
  let fields ← datum.allFields? ["title", "blocks"]
  let title ← fields.required "title" Datum.text?
  let blocks ← fields.required "blocks" (Datum.list? Block.ofDatum?)
  return ⟨title, blocks⟩

/-! ### Chrome -/

/-- A link of the side navigation. -/
def NavigationLink.toDatum (link : NavigationLink) : Datum :=
  .record [("label", text link.label), ("href", text link.href), ("active", .bool link.active)]

/-- The link of a datum. -/
def NavigationLink.ofDatum? (datum : Datum) : Option NavigationLink := do
  let fields ← datum.allFields? ["label", "href", "active"]
  let label ← fields.required "label" Datum.text?
  let href ← fields.required "href" Datum.text?
  let active ← fields.required "active" Datum.bool?
  return ⟨label, href, active⟩

/-- A header bar. -/
def HeaderBar.toDatum (header : HeaderBar) : Datum :=
  .record [("app_title", text header.appTitle),
    ("page_title", .ofOption (header.pageTitle.map text))]

/-- The header bar of a datum. -/
def HeaderBar.ofDatum? (datum : Datum) : Option HeaderBar := do
  let fields ← datum.allFields? ["app_title", "page_title"]
  let appTitle ← fields.required "app_title" Datum.text?
  let pageTitle ← fields.optional "page_title" Datum.text?
  return ⟨appTitle, pageTitle⟩

/-- What surrounds a page. -/
def ChromeFrame.toDatum (frame : ChromeFrame) : Datum :=
  .record [("side_nav", .list (frame.sideNavigation.map NavigationLink.toDatum)),
    ("header", frame.header.toDatum)]

/-- The surroundings of a datum. -/
def ChromeFrame.ofDatum? (datum : Datum) : Option ChromeFrame := do
  let fields ← datum.allFields? ["side_nav", "header"]
  let links ← fields.required "side_nav" (Datum.list? NavigationLink.ofDatum?)
  let header ← fields.required "header" HeaderBar.ofDatum?
  return ⟨links, header⟩

/-! ### Screens -/

/-- A screen. -/
def Screen.toDatum (screen : Screen) : Datum :=
  .record [("pathname", text screen.pathname),
    ("pattern", .ofOption (screen.pattern.map text)),
    ("page", .ofOption (screen.page.map Page.toDatum)),
    ("params", screen.parameters.toDatum),
    ("chrome", .ofOption (screen.chrome.map ChromeFrame.toDatum)),
    ("content", .ofOption (screen.content.map Content.toDatum))]

/-- The screen of a datum. -/
def Screen.ofDatum? (datum : Datum) : Option Screen := do
  let fields ← datum.allFields? ["pathname", "pattern", "page", "params", "chrome", "content"]
  let pathname ← fields.required "pathname" Datum.text?
  let pattern ← fields.optional "pattern" Datum.text?
  let page ← fields.optional "page" Page.ofDatum?
  let parameters ← fields.required "params" Datum.textMap?
  let chrome ← fields.optional "chrome" ChromeFrame.ofDatum?
  let content ← fields.optional "content" Content.ofDatum?
  return ⟨pathname, pattern, page, parameters, chrome, content⟩

end Wayfinder
