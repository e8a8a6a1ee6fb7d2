/-
This file writes configurations as plain data and reads them back from any text format. Every
section and every setting of a section may be left out and then has its default; a member of an
unknown name means nothing. A link of the side navigation has no defaults.
-/
import Wayfinder.Config
import Wayfinder.Encoding.Screen

namespace Wayfinder

open Datum (text texts natural Leniency)

/-! ### Choices -/

/-- The name of a fallback. -/
def Fallback.name : Fallback → String
  | notFound => "not_found"
  | blank => "blank"

/-- The fallback of a choice. -/
def Fallback.ofDatum? (leniency : Leniency) (datum : Datum) : Option Fallback := do
  match ← datum.choice? leniency with
  | "not_found" => some notFound
  | "blank" => some blank
  | _ => none

/-- The name of a policy on shadowed routes. -/
def Shadowing.name : Shadowing → String
  | warn => "warn"
  | reject => "reject"

/-- The policy on shadowed routes of a choice. -/
def Shadowing.ofDatum? (leniency : Leniency) (datum : Datum) : Option Shadowing := do
  match ← datum.choice? leniency with
  | "warn" => some warn
  | "reject" => some reject
  | _ => none

/-- The name of a mode of the chrome. -/
def Chrome.Mode.name : Chrome.Mode → String
  | pathGated => "path_gated"
  | always => "always"
  | never => "never"

/-- The mode of the chrome of a choice. -/
def Chrome.Mode.ofDatum? (leniency : Leniency) (datum : Datum) : Option Chrome.Mode := do
  match ← datum.choice? leniency with
  | "path_gated" => some pathGated
  | "always" => some always
  | "never" => some never
  | _ => none

/-! ### Links -/

/-- A link that the side navigation offers. -/
def Chrome.Link.toDatum (link : Chrome.Link) : Datum :=
  .record [("label", text link.label), ("href", text link.href)]

/-- The link of a datum. -/
def Chrome.Link.ofDatum? (leniency : Leniency) (datum : Datum) : Option Chrome.Link := do
  let fields ← datum.fields? leniency ["label", "href"] false
  let label ← fields.required "label" Datum.text?
  let href ← fields.required "href" Datum.text?
  return ⟨label, href⟩

/-! ### Sections -/

namespace Config

/-- The greatest capacity of a history is one less than this. -/
def capacityBound : Nat := Nat.pow 2 64

/-- The section on routes. -/
def RoutingSection.toDatum (settings : RoutingSection) : Datum :=
  .record [("fallback", text settings.fallback.name), ("shadowing", text settings.shadowing.name),
    ("backlog", texts settings.backlog)]

/-- The section on routes of a datum. -/
def RoutingSection.ofDatum? (leniency : Leniency) (datum : Datum) : Option RoutingSection := do
  let standard : RoutingSection := {}
  let fields ← datum.fields? leniency ["fallback", "shadowing", "backlog"] true
  let fallback ← fields.defaulting "fallback" (Fallback.ofDatum? leniency) standard.fallback
  let shadowing ← fields.defaulting "shadowing" (Shadowing.ofDatum? leniency) standard.shadowing
  let backlog ← fields.defaulting "backlog" (Datum.list? Datum.text?) standard.backlog
  return ⟨fallback, shadowing, backlog⟩

/-- The section on the chrome. -/
def ChromeSection.toDatum (settings : ChromeSection) : Datum :=
  .record [("mode", text settings.mode.name), ("paths", texts settings.paths),
    ("links", .list (settings.links.map Chrome.Link.toDatum))]

/-- The section on the chrome of a datum. -/
def ChromeSection.ofDatum? (leniency : Leniency) (datum : Datum) : Option ChromeSection := do
  let standard : ChromeSection := {}
  let fields ← datum.fields? leniency ["mode", "paths", "links"] true
  let mode ← fields.defaulting "mode" (Chrome.Mode.ofDatum? leniency) standard.mode
  let paths ← fields.defaulting "paths" (Datum.list? Datum.text?) standard.paths
  let links ← fields.defaulting "links" (Datum.list? (Chrome.Link.ofDatum? leniency))
    standard.links
  return ⟨mode, paths, links⟩

/-- The section on the history. -/
def HistorySection.toDatum (settings : HistorySection) : Datum :=
  .record [("max_entries", natural settings.capacity)]

/-- The section on the history of a datum. -/
def HistorySection.ofDatum? (leniency : Leniency) (datum : Datum) : Option HistorySection := do
  let standard : HistorySection := {}
  let fields ← datum.fields? leniency ["max_entries"] true
  let capacity ← fields.defaulting "max_entries" (Datum.naturalBelow? capacityBound)
    standard.capacity
  return ⟨capacity⟩

end Config

/-- The section on the context. -/
def ContextSeed.toDatum (seed : ContextSeed) : Datum :=
  .record [("app_title", text seed.appTitle), ("attributes", seed.attributes.toDatum)]

/-- The section on the context of a datum. -/
def ContextSeed.ofDatum? (leniency : Leniency) (datum : Datum) : Option ContextSeed := do
  let standard : ContextSeed := {}
  let fields ← datum.fields? leniency ["app_title", "attributes"] true
  let appTitle ← fields.defaulting "app_title" Datum.text? standard.appTitle
  let attributes ← fields.defaulting "attributes" Datum.textMap? standard.attributes
  return ⟨appTitle, attributes⟩

/-! ### Configurations -/

/-- A configuration. -/
def Config.toDatum (config : Config) : Datum :=
  .record [("routing", config.routing.toDatum), ("chrome", config.chrome.toDatum),
    ("history", config.history.toDatum), ("context", config.context.toDatum)]

/-- The configuration of a datum. -/
def Config.ofDatum? (leniency : Leniency) (datum : Datum) : Option Config := do
  let standard : Config := {}
  let fields ← datum.fields? leniency ["routing", "chrome", "history", "context"] true
  let routing ← fields.defaulting "routing" (RoutingSection.ofDatum? leniency) standard.routing
  let chrome ← fields.defaulting "chrome" (ChromeSection.ofDatum? leniency) standard.chrome
  let history ← fields.defaulting "history" (HistorySection.ofDatum? leniency) standard.history
  let context ← fields.defaulting "context" (ContextSeed.ofDatum? leniency) standard.context
  return ⟨routing, chrome, history, context⟩

end Wayfinder
