/-
This file defines the tree of plain data that every text format of the library reads into and
prints from: texts, numbers, lists and records. A value of the domain turns into a datum and is
read back from one; which characters the datum has on paper is the business of the format.
-/

namespace Wayfinder

/-- A tree of plain data. A number that is not a plain integer is kept as it was written. -/
inductive Datum where
  | null
  | bool (value : Bool)
  | integer (value : Int)
  | real (literal : String)
  | text (value : String)
  | list (items : List Datum)
  | record (members : List (String × Datum))
  deriving Repr, Inhabited

namespace Datum

/-- An optional datum, with `null` for what is missing. -/
def ofOption : Option Datum → Datum
  | none => null
  | some datum => datum

/-- A list of texts. -/
def texts (values : List String) : Datum :=
  list (values.map text)

/-- A natural number. -/
def natural (value : Nat) : Datum :=
  integer value

end Datum

end Wayfinder
