/-
This file proves that writing a screen loses nothing. Every part of a screen is restored from the
datum it is written as: each field is found again under its name, a missing part is told from any
that is there, and the kind of a block says how to read the rest of it. Answers have no numbers,
so their JSON is read back into the same datum, and since no two kinds of answers have the same
members, different answers never have the same JSON.
-/
import Wayfinder.Proofs.Framing
import Wayfinder.Proofs.Reading
import Wayfinder.Proofs.TextMap

namespace Wayfinder

/-! ### Parts -/

namespace Datum

/-- A datum without numbers is one that JSON can express. -/
theorem Numberless.isJson {datum : Datum} (numberless : datum.Numberless) : datum.IsJson := by
  induction numberless with
  | null => exact .null
  | bool value => exact .bool value
  | text value => exact .text value
  | list _ inductionHypothesis => exact .list inductionHypothesis
  | record _ inductionHypothesis => exact .record inductionHypothesis

section Parts

variable {Value Part : Type} {read : Part → Option Value} {write : Value → Part}

theorem mapM_map (restores : ∀ value, read (write value) = some value) (values : List Value) :
    (values.map write).mapM read = some values := by
  induction values with
  | nil => rfl
  | cons value rest inductionHypothesis =>
    rw [List.map_cons, List.mapM_cons, restores, inductionHypothesis]
    rfl

end Parts

section Fields

variable {Value : Type} {read : Datum → Option Value} {write : Value → Datum}

/-- A list is restored when its items are. -/
theorem list?_map (restores : ∀ value, read (write value) = some value) (values : List Value) :
    list? read (.list (values.map write)) = some values :=
  mapM_map restores values

theorem list?_texts (values : List String) : list? text? (texts values) = some values := by
  have restores : ∀ value : String, text? (text value) = some value := fun _ => rfl
  exact list?_map restores values

/-- An optional field is restored when its value is, unless the value is written like a missing
one. -/
theorem optional_ofOption (restores : ∀ value, read (write value) = some value)
    (present : ∀ value, write value ≠ .null) {fields : Fields} {name : String}
    {value? : Option Value} (found : fields name = some (.ofOption (value?.map write))) :
    fields.optional name read = some value? := by
  rw [Fields.optional, found]
  cases value? with
  | none => rfl
  | some value =>
    have restored := congrArg (Option.map some) (restores value)
    rw [Option.map_some, ofOption]
    split
    · next missing => cases missing
    · next missing => exact absurd (Option.some.inj missing) (present value)
    · next there => rwa [← Option.some.inj there]

end Fields

end Datum

open Datum (list?_map list?_texts optional_ofOption)

theorem TextMap.textMap?_toDatum (map : TextMap) : map.toDatum.textMap? = some map := by
  have restores : ∀ entry : String × String,
      Datum.textMember? (entry.1, Datum.text entry.2) = some entry := fun _ => rfl
  show (List.mapM Datum.textMember? _).map _ = _
  rw [Datum.mapM_map restores, Option.map_some, ofList_entries]

theorem Page.ofName?_name (page : Page) : ofName? page.name = some page := by
  cases page <;> rfl

theorem Page.ofDatum?_toDatum (page : Page) : ofDatum? page.toDatum = some page :=
  ofName?_name page

theorem Declaration.ofDatum?_toDatum (declaration : Declaration) :
    ofDatum? declaration.toDatum = some declaration := by
  show (Page.ofDatum? declaration.page.toDatum).bind _ = _
  rw [Page.ofDatum?_toDatum]
  rfl

theorem Block.ofDatum?_toDatum (block : Block) : ofDatum? block.toDatum = some block := by
  cases block with
  | form name fields =>
    show (Datum.list? Datum.text? (Datum.texts fields)).bind _ = _
    rw [list?_texts]
    rfl
  | table name columns =>
    show (Datum.list? Datum.text? (Datum.texts columns)).bind _ = _
    rw [list?_texts]
    rfl
  | _ => rfl

theorem Content.ofDatum?_toDatum (content : Content) :
    ofDatum? content.toDatum = some content := by
  show (Datum.list? Block.ofDatum? (.list (content.blocks.map Block.toDatum))).bind _ = _
  rw [list?_map Block.ofDatum?_toDatum]
  rfl

theorem NavigationLink.ofDatum?_toDatum (link : NavigationLink) :
    ofDatum? link.toDatum = some link := rfl

theorem HeaderBar.ofDatum?_toDatum (header : HeaderBar) :
    ofDatum? header.toDatum = some header := by
  cases header with
  | mk appTitle pageTitle => cases pageTitle <;> rfl

theorem ChromeFrame.ofDatum?_toDatum (frame : ChromeFrame) :
    ofDatum? frame.toDatum = some frame := by
  show (Datum.list? NavigationLink.ofDatum?
    (.list (frame.sideNavigation.map NavigationLink.toDatum))).bind _ = _
  rw [list?_map NavigationLink.ofDatum?_toDatum]
  show (HeaderBar.ofDatum? frame.header.toDatum).bind _ = _
  rw [HeaderBar.ofDatum?_toDatum]
  rfl

/-- A screen is restored from the datum it is written as. -/
theorem Screen.ofDatum?_toDatum (screen : Screen) : ofDatum? screen.toDatum = some screen := by
  have texted : ∀ value : String, Datum.text? (.text value) = some value := fun _ => rfl
  show (Datum.Fields.optional _ "pattern" Datum.text?).bind _ = _
  rw [optional_ofOption texted (fun _ => nofun) rfl]
  show (Datum.Fields.optional _ "page" Page.ofDatum?).bind _ = _
  rw [optional_ofOption Page.ofDatum?_toDatum (fun _ => nofun) rfl]
  show screen.parameters.toDatum.textMap?.bind _ = _
  rw [TextMap.textMap?_toDatum]
  show (Datum.Fields.optional _ "chrome" ChromeFrame.ofDatum?).bind _ = _
  rw [optional_ofOption ChromeFrame.ofDatum?_toDatum (fun _ => nofun) rfl]
  show (Datum.Fields.optional _ "content" Content.ofDatum?).bind _ = _
  rw [optional_ofOption Content.ofDatum?_toDatum (fun _ => nofun) rfl]
  rfl

/-! ### Answers -/

namespace Reply

/-- Different answers are written differently. -/
theorem toDatum_injective {first second : Reply} (same : first.toDatum = second.toDatum) :
    first = second := by
  cases first with
  | screen shown =>
    cases second with
    | screen other =>
      have restored : some shown = some other := by
        rw [← Screen.ofDatum?_toDatum, ← Screen.ofDatum?_toDatum]
        exact congrArg Screen.ofDatum? same
      rw [Option.some.inj restored]
    | _ => simp [toDatum, Screen.toDatum] at same
  | routes declared =>
    cases second with
    | routes other =>
      have restored : some declared = some other := by
        rw [← list?_map Declaration.ofDatum?_toDatum, ← list?_map Declaration.ofDatum?_toDatum]
        simp only [toDatum, Datum.record.injEq, List.cons.injEq, Prod.mk.injEq] at same
        exact congrArg (Datum.list? Declaration.ofDatum?) same.1.2
      rw [Option.some.inj restored]
    | _ => simp [toDatum, Screen.toDatum] at same
  | notice text => cases second <;> simp_all [toDatum, Screen.toDatum]
  | failure text => cases second <;> simp_all [toDatum, Screen.toDatum]

/-- Writing as JSON loses nothing. Every screen is read back from its JSON; and although nothing
in the JSON of an answer says which kind it is, different answers have different JSON. -/
theorem json_lossless :
    (∀ screen : Screen,
        (Json.read (Json.print screen.toDatum)).bind Screen.ofDatum? = some screen) ∧
      ∀ first second : Reply, first.json = second.json → first = second := by
  constructor
  · intro screen
    rw [Json.read_print screen.toDatum_numberless.isJson, Option.bind_some,
      Screen.ofDatum?_toDatum]
  · intro first second same
    exact toDatum_injective (Json.eq_of_print_eq first.toDatum_numberless.isJson
      second.toDatum_numberless.isJson same)

end Reply

end Wayfinder
