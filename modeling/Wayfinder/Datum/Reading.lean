/-
This file reads values of the domain out of plain data. A record is read field by field: it
stands either as named members in any order, of which unknown ones are passed over, or as the
list of its fields in order. A choice between named alternatives stands as the name, or as a
record whose only member has that name and carries nothing.

A text never reaches the domain directly: it is first parsed as a whole to plain data, and values
are read out of that. A parsed record has one member of a name, so that a name which the text
gives more than once stands for the last of its members. A reader that went through the text
itself could refuse such a record; this one does not see the difference.
-/
import Wayfinder.Datum
import Wayfinder.TextMap

namespace Wayfinder.Datum

/-- How far a text format lets a record or a choice stray from its plain form: whether a list
may hold more items than the record has fields, and which datum counts as carrying nothing. -/
structure Leniency where
  surplusItems : Bool
  carriesNothing : Datum → Bool

/-! ### Single values -/

/-- A text. -/
def text? : Datum → Option String
  | .text value => some value
  | _ => none

/-- A truth value. -/
def bool? : Datum → Option Bool
  | .bool value => some value
  | _ => none

/-- A natural number below a bound. -/
def naturalBelow? (bound : Nat) : Datum → Option Nat
  | .integer value => if 0 ≤ value && value < bound then some value.toNat else none
  | _ => none

/-- A list, each item read alike. -/
def list? {Value : Type} (item : Datum → Option Value) : Datum → Option (List Value)
  | .list items => items.mapM item
  | _ => none

/-- A member that is a text. -/
def textMember? (member : String × Datum) : Option (String × String) :=
  member.2.text?.map (Prod.mk member.1)

/-- A map from names to texts. -/
def textMap? : Datum → Option TextMap
  | .record members => (members.mapM textMember?).map TextMap.ofList
  | _ => none

/-- The name of the alternative that a choice stands for. -/
def choice? (leniency : Leniency) : Datum → Option String
  | .text name => some name
  | .record [(name, payload)] => if leniency.carriesNothing payload then some name else none
  | _ => none

/-! ### Records -/

/-- The fields found in a record, by name. -/
abbrev Fields := String → Option Datum

/-- The member of a name; of several, the last, which is the one that parsing keeps. -/
def member? (name : String) : List (String × Datum) → Option Datum
  | [] => none
  | member :: rest => (member? name rest).or (if member.1 = name then some member.2 else none)

/-- The fields of a record with the given names. A list gives them in this order; it may be
shorter than the record only if the record says that its fields may be left out. -/
def fields? (leniency : Leniency) (names : List String) (mayOmit : Bool) : Datum → Option Fields
  | .record members => some fun name => member? name members
  | .list items =>
    if (items.length ≤ names.length || leniency.surplusItems) &&
        (names.length ≤ items.length || mayOmit) then
      some fun name => (names.zip items).lookup name
    else none
  | _ => none

namespace Fields

variable {Value : Type}

/-- A field that has to be there. -/
def required (fields : Fields) (name : String) (read : Datum → Option Value) : Option Value :=
  (fields name).bind read

/-- A field that may be missing or `null`. -/
def optional (fields : Fields) (name : String) (read : Datum → Option Value) :
    Option (Option Value) :=
  match fields name with
  | none => some none
  | some .null => some none
  | some datum => (read datum).map some

/-- A field that means the default when it is missing. -/
def defaulting (fields : Fields) (name : String) (read : Datum → Option Value)
    (default : Value) : Option Value :=
  match fields name with
  | none => some default
  | some datum => read datum

end Fields

end Wayfinder.Datum
