/-
This file proves that a configuration only has to say what differs from the default. Sections and
settings may be left out of what a configuration is written as, in any combination, and members of
unknown names may stand between the others: what is left out is read as its default, and all the
rest as it was written. The defaults are those of the section that a setting belongs to.
-/
import Wayfinder.Encoding.Config
import Wayfinder.Proofs.Restoring

namespace Wayfinder

/-! ### Abridged records -/

namespace Datum

/-- What the members of a record tell under a name: nothing, if the name is left out, and
otherwise one datum. -/
inductive Tells (members : List (String × Datum)) (name : String) (fits : Datum → Prop) :
    Bool → Prop where
  | nothing (absent : members.filter (·.1 = name) = []) : Tells members name fits true
  | once {datum : Datum} (fitting : fits datum)
    (found : members.filter (·.1 = name) = [(name, datum)]) : Tells members name fits false

/-- A record abridges another when it leaves some of the names of the other out and shortens what
stands under the rest. The order of its members is free, and so are members of other names. -/
inductive Abridges (omitted : String → Bool) (shortens : String → Datum → Datum → Prop) :
    Datum → Datum → Prop where
  | record {part whole : List (String × Datum)}
    (each : ∀ member ∈ whole,
      Tells part member.1 (shortens member.1 · member.2) (omitted member.1)) :
    Abridges omitted shortens (.record part) (.record whole)

section Abridged

variable {omitted : String → Bool} {shortens : String → Datum → Datum → Prop}

theorem Abridges.exists_record {datum : Datum} {whole : List (String × Datum)}
    (abridges : Abridges omitted shortens datum (.record whole)) :
    ∃ part, datum = .record part ∧ ∀ member ∈ whole,
      Tells part member.1 (shortens member.1 · member.2) (omitted member.1) := by
  cases abridges with
  | record each => exact ⟨_, rfl, each⟩

theorem filter_eq_singleton {members : List (String × Datum)}
    (distinct : (members.map (·.1)).Nodup) {member : String × Datum} (inside : member ∈ members) :
    members.filter (·.1 = member.1) = [member] := by
  induction members with
  | nil => cases inside
  | cons first rest inductionHypothesis =>
    rw [List.map_cons, List.nodup_cons] at distinct
    rcases List.mem_cons.1 inside with rfl | later
    · have others : rest.filter (·.1 = member.1) = [] := by
        refine List.filter_eq_nil_iff.2 fun other present => ?_
        rw [decide_eq_true_eq]
        exact fun same => distinct.1 (same ▸ List.mem_map_of_mem present)
      rw [List.filter_cons_of_pos (by rw [decide_eq_true_eq]), others]
    · have different : first.1 ≠ member.1 := fun same =>
        distinct.1 (same ▸ List.mem_map_of_mem later)
      rw [List.filter_cons_of_neg (by rwa [decide_eq_true_eq]),
        inductionHypothesis distinct.2 later]

/-- A record of distinct names abridges itself without leaving anything out. -/
theorem abridges_self {members : List (String × Datum)} (distinct : (members.map (·.1)).Nodup)
    (fitting : ∀ member ∈ members, shortens member.1 member.2 member.2) :
    Abridges (fun _ => false) shortens (.record members) (.record members) :=
  .record fun member inside =>
    .once (fitting member inside) (filter_eq_singleton distinct inside)

end Abridged

/-! ### Reading an abridged record -/

theorem member?_filter (name : String) (members : List (String × Datum)) :
    member? name (members.filter (·.1 = name)) = member? name members := by
  induction members with
  | nil => rfl
  | cons member rest inductionHypothesis =>
    by_cases same : member.1 = name
    · rw [List.filter_cons_of_pos (by rwa [decide_eq_true_eq]), member?, member?,
        inductionHypothesis]
    · rw [List.filter_cons_of_neg (by rwa [decide_eq_true_eq]), member?, inductionHypothesis,
        if_neg same, Option.or_none]

section Reading

variable {Value : Type} {read : Datum → Option Value} {members : List (String × Datum)}
  {name : String} {omitted : Bool} {own : Value}

/-- A name that is left out has its default, and any other what was written under it. -/
theorem Tells.defaulting {fits : Datum → Prop} (tells : Tells members name fits omitted)
    (reads : ∀ datum, fits datum → read datum = some own) (standard : Value) :
    Fields.defaulting (member? · members) name read standard =
      some (if omitted then standard else own) := by
  rw [Fields.defaulting, ← member?_filter]
  cases tells with
  | nothing absent =>
    rw [absent]
    rfl
  | @once datum fitting found =>
    have last : member? name [(name, datum)] = some datum := if_pos rfl
    rw [found, last]
    exact reads datum fitting

theorem Tells.defaulting_eq {written : Datum} (tells : Tells members name (· = written) omitted)
    (restores : read written = some own) (standard : Value) :
    Fields.defaulting (member? · members) name read standard =
      some (if omitted then standard else own) :=
  tells.defaulting (fun _ same => same ▸ restores) standard

end Reading

theorem naturalBelow?_natural {bound value : Nat} (inRange : value < bound) :
    naturalBelow? bound (natural value) = some value := by
  have small : (0 ≤ (value : Int) && (value : Int) < (bound : Int)) = true := by
    rw [Bool.and_eq_true, decide_eq_true_eq, decide_eq_true_eq]
    omega
  rw [natural, naturalBelow?, if_pos small, Int.toNat_natCast]

end Datum

/-! ### Settings -/

theorem Fallback.ofDatum?_name (leniency : Datum.Leniency) (fallback : Fallback) :
    ofDatum? leniency (.text fallback.name) = some fallback := by
  cases fallback <;> rfl

theorem Shadowing.ofDatum?_name (leniency : Datum.Leniency) (shadowing : Shadowing) :
    ofDatum? leniency (.text shadowing.name) = some shadowing := by
  cases shadowing <;> rfl

theorem Chrome.Mode.ofDatum?_name (leniency : Datum.Leniency) (mode : Chrome.Mode) :
    ofDatum? leniency (.text mode.name) = some mode := by
  cases mode <;> rfl

theorem Chrome.Link.ofDatum?_toDatum (leniency : Datum.Leniency) (link : Chrome.Link) :
    ofDatum? leniency link.toDatum = some link :=
  rfl

open Datum (Abridges list?_map list?_texts naturalBelow?_natural)
open Datum.Numberless (cons nil texts)

/-! ### Sections -/

section Sections

variable {leniency : Datum.Leniency} {omitted : String → Bool} {datum : Datum}

namespace Config

/-- The section on routes with the default for each setting that is left out. -/
def RoutingSection.standardized (omitted : String → Bool) (settings : RoutingSection) :
    RoutingSection :=
  let standard : RoutingSection := {}
  { fallback := if omitted "fallback" then standard.fallback else settings.fallback
    shadowing := if omitted "shadowing" then standard.shadowing else settings.shadowing
    backlog := if omitted "backlog" then standard.backlog else settings.backlog }

theorem RoutingSection.ofDatum?_abridged {settings : RoutingSection}
    (abridged : Abridges omitted (fun _ => Eq) datum settings.toDatum) :
    ofDatum? leniency datum = some (settings.standardized omitted) := by
  obtain ⟨part, rfl, each⟩ := abridged.exists_record
  simp only [List.forall_mem_cons] at each
  obtain ⟨fallback, shadowing, backlog, _⟩ := each
  show (Datum.Fields.defaulting _ "fallback" _ _).bind _ = _
  rw [fallback.defaulting_eq (settings.fallback.ofDatum?_name leniency)]
  show (Datum.Fields.defaulting _ "shadowing" _ _).bind _ = _
  rw [shadowing.defaulting_eq (settings.shadowing.ofDatum?_name leniency)]
  show (Datum.Fields.defaulting _ "backlog" _ _).bind _ = _
  rw [backlog.defaulting_eq (list?_texts settings.backlog)]
  rfl

/-- The section on the chrome with the default for each setting that is left out. -/
def ChromeSection.standardized (omitted : String → Bool) (settings : ChromeSection) :
    ChromeSection :=
  let standard : ChromeSection := {}
  { mode := if omitted "mode" then standard.mode else settings.mode
    paths := if omitted "paths" then standard.paths else settings.paths
    links := if omitted "links" then standard.links else settings.links }

theorem ChromeSection.ofDatum?_abridged {settings : ChromeSection}
    (abridged : Abridges omitted (fun _ => Eq) datum settings.toDatum) :
    ofDatum? leniency datum = some (settings.standardized omitted) := by
  obtain ⟨part, rfl, each⟩ := abridged.exists_record
  simp only [List.forall_mem_cons] at each
  obtain ⟨mode, paths, links, _⟩ := each
  show (Datum.Fields.defaulting _ "mode" _ _).bind _ = _
  rw [mode.defaulting_eq (settings.mode.ofDatum?_name leniency)]
  show (Datum.Fields.defaulting _ "paths" _ _).bind _ = _
  rw [paths.defaulting_eq (list?_texts settings.paths)]
  show (Datum.Fields.defaulting _ "links" _ _).bind _ = _
  rw [links.defaulting_eq (list?_map (Chrome.Link.ofDatum?_toDatum leniency) settings.links)]
  rfl

/-- The section on the history with the default for its setting if that is left out. -/
def HistorySection.standardized (omitted : String → Bool) (settings : HistorySection) :
    HistorySection :=
  let standard : HistorySection := {}
  { capacity := if omitted "max_entries" then standard.capacity else settings.capacity }

theorem HistorySection.ofDatum?_abridged {settings : HistorySection}
    (inRange : settings.capacity < capacityBound)
    (abridged : Abridges omitted (fun _ => Eq) datum settings.toDatum) :
    ofDatum? leniency datum = some (settings.standardized omitted) := by
  obtain ⟨part, rfl, each⟩ := abridged.exists_record
  simp only [List.forall_mem_cons] at each
  obtain ⟨capacity, _⟩ := each
  show (Datum.Fields.defaulting _ "max_entries" _ _).bind _ = _
  rw [capacity.defaulting_eq (naturalBelow?_natural inRange)]
  rfl

end Config

/-- The section on the context with the default for each setting that is left out. -/
def ContextSeed.standardized (omitted : String → Bool) (seed : ContextSeed) : ContextSeed :=
  let standard : ContextSeed := {}
  { appTitle := if omitted "app_title" then standard.appTitle else seed.appTitle
    attributes := if omitted "attributes" then standard.attributes else seed.attributes }

theorem ContextSeed.ofDatum?_abridged {seed : ContextSeed}
    (abridged : Abridges omitted (fun _ => Eq) datum seed.toDatum) :
    ofDatum? leniency datum = some (seed.standardized omitted) := by
  have texted : Datum.text? (.text seed.appTitle) = some seed.appTitle := rfl
  obtain ⟨part, rfl, each⟩ := abridged.exists_record
  simp only [List.forall_mem_cons] at each
  obtain ⟨appTitle, attributes, _⟩ := each
  show (Datum.Fields.defaulting _ "app_title" _ _).bind _ = _
  rw [appTitle.defaulting_eq texted]
  show (Datum.Fields.defaulting _ "attributes" _ _).bind _ = _
  rw [attributes.defaulting_eq seed.attributes.textMap?_toDatum]
  rfl

end Sections

/-! ### Configurations -/

namespace Config

/-- What is left out of a configuration: whole sections, and settings of each section. -/
structure Omission where
  sections : String → Bool
  settings : String → String → Bool

/-- Nothing is left out. -/
def Omission.nothing : Omission where
  sections _ := false
  settings _ _ := false

/-- A datum is what a configuration is written as, but for what is left out and for members of
unknown names, in the configuration or in any section. -/
def IsAbridged (config : Config) (omitted : Omission) (datum : Datum) : Prop :=
  Abridges omitted.sections (fun name => Abridges (omitted.settings name) fun _ => Eq) datum
    config.toDatum

/-- A configuration with the default for each section and each setting that is left out. -/
def standardized (omitted : Omission) (config : Config) : Config :=
  let standard : Config := {}
  { routing :=
      if omitted.sections "routing" then standard.routing
      else config.routing.standardized (omitted.settings "routing")
    chrome :=
      if omitted.sections "chrome" then standard.chrome
      else config.chrome.standardized (omitted.settings "chrome")
    history :=
      if omitted.sections "history" then standard.history
      else config.history.standardized (omitted.settings "history")
    context :=
      if omitted.sections "context" then standard.context
      else config.context.standardized (omitted.settings "context") }

/-- The configuration that a JSON text stands for. -/
def ofJson? (text : String) : Option Config :=
  (Json.read text).bind (ofDatum? Json.leniency)

/-- An abridged configuration is read with the defaults for what is left out. -/
theorem ofDatum?_abridged {leniency : Datum.Leniency} {config : Config} {omitted : Omission}
    {datum : Datum} (inRange : config.history.capacity < capacityBound)
    (abridged : config.IsAbridged omitted datum) :
    ofDatum? leniency datum = some (config.standardized omitted) := by
  obtain ⟨part, rfl, each⟩ := abridged.exists_record
  simp only [List.forall_mem_cons] at each
  obtain ⟨routing, chrome, history, context, _⟩ := each
  show (Datum.Fields.defaulting _ "routing" _ _).bind _ = _
  rw [routing.defaulting fun _ => RoutingSection.ofDatum?_abridged]
  show (Datum.Fields.defaulting _ "chrome" _ _).bind _ = _
  rw [chrome.defaulting fun _ => ChromeSection.ofDatum?_abridged]
  show (Datum.Fields.defaulting _ "history" _ _).bind _ = _
  rw [history.defaulting fun _ => HistorySection.ofDatum?_abridged inRange]
  show (Datum.Fields.defaulting _ "context" _ _).bind _ = _
  rw [context.defaulting fun _ => ContextSeed.ofDatum?_abridged]
  rfl

/-! ### Nothing left out -/

theorem toDatum_isJson (config : Config) : config.toDatum.IsJson := by
  have routing : config.routing.toDatum.Numberless :=
    cons (.text _) (cons (.text _) (cons (texts _) nil))
  have chrome : config.chrome.toDatum.Numberless :=
    cons (.text _) (cons (texts _) (cons (.listOf (fun _ => cons (.text _) (cons (.text _) nil)) _)
      nil))
  have context : config.context.toDatum.Numberless :=
    cons (.text _) (cons config.context.attributes.toDatum_numberless nil)
  have history : config.history.toDatum.IsJson :=
    .record (List.forall_mem_singleton.2 (.integer _))
  refine .record ?_
  simp only [List.forall_mem_cons]
  exact ⟨routing.isJson, chrome.isJson, history, context.isJson, List.forall_mem_nil _⟩

/-- What a configuration is written as leaves nothing out. -/
theorem isAbridged_toDatum (config : Config) : config.IsAbridged .nothing config.toDatum := by
  have routing : ["fallback", "shadowing", "backlog"].Nodup := by decide
  have chrome : ["mode", "paths", "links"].Nodup := by decide
  have history : ["max_entries"].Nodup := by decide
  have context : ["app_title", "attributes"].Nodup := by decide
  have sections : ["routing", "chrome", "history", "context"].Nodup := by decide
  refine Datum.abridges_self sections ?_
  simp only [List.forall_mem_cons]
  exact ⟨Datum.abridges_self routing fun _ _ => rfl, Datum.abridges_self chrome fun _ _ => rfl,
    Datum.abridges_self history fun _ _ => rfl, Datum.abridges_self context fun _ _ => rfl,
    List.forall_mem_nil _⟩

theorem standardized_nothing (config : Config) : config.standardized .nothing = config :=
  rfl

/-- Partial configurations mean the default for what they leave out: any JSON text of a
configuration with some sections and settings left out, and with any members of unknown names, is
read as that configuration with the defaults in those places. With nothing left out it is read as
the configuration itself. -/
theorem ofJson?_abridged (config : Config) (inRange : config.history.capacity < capacityBound) :
    (∀ omitted datum text, config.IsAbridged omitted datum → Json.read text = some datum →
      ofJson? text = some (config.standardized omitted)) ∧
      ofJson? (Json.print config.toDatum) = some config := by
  have partially : ∀ omitted datum text, config.IsAbridged omitted datum →
      Json.read text = some datum → ofJson? text = some (config.standardized omitted) := by
    intro omitted datum text abridged read
    rw [ofJson?, read, Option.bind_some, ofDatum?_abridged inRange abridged]
  refine ⟨partially, ?_⟩
  rw [partially .nothing config.toDatum _ config.isAbridged_toDatum
    (Json.read_print config.toDatum_isJson), standardized_nothing]

/-- The history is left out, and so are the paths of the chrome: the paths are the standard ones,
while the links, which were written as none, stay none. -/
theorem ofJson?_abridged_pathless :
    let config : Config :=
      { chrome := { mode := .never, paths := ["/wallet"], links := [] }, history := ⟨7⟩ }
    let omitted : Omission :=
      { sections := (· = "history"), settings := fun _ name => name = "paths" }
    let datum : Datum :=
      .record [("context", config.context.toDatum), ("locale", .null),
        ("chrome", .record [("mode", .text "never"), ("theme", .text "dark"), ("links", .list [])]),
        ("routing", config.routing.toDatum)]
    config.history.capacity < capacityBound ∧ config.IsAbridged omitted datum ∧
      ofJson? (Json.print datum) = some { chrome := { mode := .never, links := [] } } := by
  intro config omitted datum
  have inRange : config.history.capacity < capacityBound := by decide
  have abridged : config.IsAbridged omitted datum := by
    refine .record ?_
    simp only [List.forall_mem_cons]
    refine ⟨.once (.record ?_) rfl, .once (.record ?_) rfl, .nothing rfl, .once (.record ?_) rfl,
      List.forall_mem_nil _⟩
    all_goals simp only [List.forall_mem_cons]
    · exact ⟨.once rfl rfl, .once rfl rfl, .once rfl rfl, List.forall_mem_nil _⟩
    · exact ⟨.once rfl rfl, .nothing rfl, .once rfl rfl, List.forall_mem_nil _⟩
    · exact ⟨.once rfl rfl, .once rfl rfl, List.forall_mem_nil _⟩
  have json : datum.IsJson := (cons (cons (.text _) (cons (.record (List.forall_mem_nil _)) nil))
    (cons .null (cons (cons (.text _) (cons (.text _) (cons (.list (List.forall_mem_nil _)) nil)))
      (cons (cons (.text _) (cons (.text _) (cons (texts _) nil))) nil)))).isJson
  exact ⟨inRange, abridged,
    (ofJson?_abridged config inRange).1 omitted datum _ abridged (Json.read_print json)⟩

end Config

end Wayfinder
