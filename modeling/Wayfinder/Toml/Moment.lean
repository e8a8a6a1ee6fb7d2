/-
This file reads the dates and times of a TOML text: a date, a time of day, or a date with a time
and perhaps an offset from universal time. As plain data such a moment is a record with one
member of a reserved name, whose text is the moment in its common form.
-/
import Wayfinder.Calendar
import Wayfinder.Datum
import Wayfinder.Toml.Quoted

namespace Wayfinder.Toml

open Wayfinder.Text

/-- The name of the one member of a record that stands for a moment. -/
def momentMember : String := "$__toml_private_datetime"

/-- A given number of digits, for a number between two bounds. -/
def field? (width least greatest : Nat) (text : List Char) : Option (List Char × List Char) :=
  let digits := text.take width
  let number := ofDigits 10 digits
  if digits.length = width && digits.all (isDigitOf 10) && least ≤ number &&
      number ≤ greatest then
    some (digits, text.drop width)
  else none

/-- The text after a given character. -/
def expect? (character : Char) : List Char → Option (List Char)
  | first :: rest => if first = character then some rest else none
  | [] => none

/-- A date of the calendar. -/
def date? (text : List Char) : Option (List Char × List Char) := do
  let (year, rest) ← field? 4 0 9999 text
  let (month, rest) ← field? 2 1 12 (← expect? '-' rest)
  let (day, rest) ← field? 2 1 31 (← expect? '-' rest)
  let date : Calendar.Date := ⟨ofDigits 10 year, ofDigits 10 month, ofDigits 10 day⟩
  if date.isValid then some (year ++ '-' :: month ++ '-' :: day, rest) else none

/-- A fraction of a second, without digits beyond the ninth and without zeros at its end. -/
def secondFraction? (text : List Char) : Option (List Char × List Char) :=
  match text with
  | '.' :: rest =>
    let digits := rest.takeWhile (isDigitOf 10)
    let counted := ((digits.take 9).reverse.dropWhile (· == '0')).reverse
    if digits.isEmpty then none
    else some (if counted.isEmpty then [] else '.' :: counted, rest.drop digits.length)
  | _ => some ([], text)

/-- A time of day. -/
def timeOfDay? (text : List Char) : Option (List Char × List Char) := do
  let (hour, rest) ← field? 2 0 23 text
  let (minute, rest) ← field? 2 0 59 (← expect? ':' rest)
  let (second, rest) ← field? 2 0 60 (← expect? ':' rest)
  let (fraction, rest) ← secondFraction? rest
  return (hour ++ ':' :: minute ++ ':' :: second ++ fraction, rest)

/-- The hours and minutes of an offset, after its sign. -/
def hoursAndMinutes? (text : List Char) : Option (List Char × List Char) := do
  let (hour, rest) ← field? 2 0 23 text
  let (minute, rest) ← field? 2 0 59 (← expect? ':' rest)
  return (hour ++ ':' :: minute, rest)

/-- An offset from universal time, which may be missing. An offset of nothing is positive. -/
def offset? (text : List Char) : Option (List Char × List Char) :=
  match text with
  | 'Z' :: rest => some (['Z'], rest)
  | 'z' :: rest => some (['Z'], rest)
  | '+' :: rest => prepend ['+'] (hoursAndMinutes? rest)
  | '-' :: rest =>
    (hoursAndMinutes? rest).map fun (offset, after) =>
      ((if offset = ['0', '0', ':', '0', '0'] then '+' else '-') :: offset, after)
  | _ => some ([], text)

/-- A time of day after the mark that joins it to a date. -/
def joinedTime? : Char → List Char → Option (List Char × List Char)
  | 'T', text => timeOfDay? text
  | 't', text => timeOfDay? text
  | ' ', text => timeOfDay? text
  | _, _ => none

/-- A date, perhaps with a time and an offset. -/
def dateAndTime? (text : List Char) : Option (List Char × List Char) := do
  let (date, rest) ← date? text
  match rest with
  | mark :: start =>
    match joinedTime? mark start with
    | some (time, after) => prepend (date ++ 'T' :: time) (offset? after)
    | none => return (date, rest)
  | [] => return (date, [])

/-- A moment of any kind. -/
def moment? (text : List Char) : Option (Datum × List Char) :=
  (dateAndTime? text <|> timeOfDay? text).map fun (moment, rest) =>
    (.record [(momentMember, .text (String.ofList moment))], rest)

end Wayfinder.Toml
