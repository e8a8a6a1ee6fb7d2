/-
This file reads and writes points in time in the common form of date, time of day and offset
from universal time. Reading is tolerant of blanks between the parts and of short numbers;
writing always gives universal time, with the fraction of the second in groups of three digits
and none when it is zero. A leap second is kept as the second before it, running on past its
end.
-/
import Wayfinder.Calendar
import Wayfinder.Text.Blank
import Wayfinder.Text.Digits

namespace Wayfinder

/-- A point in time: the seconds since the start of 1970 in universal time, and the nanoseconds
since then, which within a leap second go on beyond a full second. -/
structure Timestamp where
  seconds : Int
  nanoseconds : Nat
  deriving DecidableEq, Repr, Inhabited

namespace Timestamp

open Wayfinder.Text

/-- The first and the last year that a timestamp can lie in. -/
def isYearInRange (year : Int) : Bool :=
  -262143 ≤ year && year ≤ 262142

/-! ### Reading -/

/-- The text after any blank characters. -/
def skipBlanks (text : List Char) : List Char :=
  text.dropWhile isBlank

/-- The number of the digits at the start of a text, of which at least one has to be there and
at most a given count is taken. -/
def digits? (most : Nat) (text : List Char) : Option (Nat × List Char) :=
  let digits := (text.takeWhile (isDigitOf 10)).take most
  if digits.isEmpty then none else some (ofDigits 10 digits, text.drop digits.length)

/-- A number of one or two digits, between two bounds, after any blanks. -/
def part? (least greatest : Nat) (text : List Char) : Option (Nat × List Char) := do
  let (number, rest) ← digits? 2 (skipBlanks text)
  if least ≤ number && number ≤ greatest then some (number, rest) else none

/-- A year after any blanks: up to four digits, or a sign and any number of digits. -/
def year? (text : List Char) : Option (Int × List Char) := do
  match skipBlanks text with
  | '-' :: unsigned =>
    let (number, rest) ← digits? unsigned.length unsigned
    return (-(number : Int), rest)
  | '+' :: unsigned =>
    let (number, rest) ← digits? unsigned.length unsigned
    return ((number : Int), rest)
  | unsigned =>
    let (number, rest) ← digits? 4 unsigned
    return ((number : Int), rest)

/-- The text after any blanks and a given mark. -/
def mark? (mark : Char) (text : List Char) : Option (List Char) :=
  match skipBlanks text with
  | [] => none
  | first :: rest => if first = mark then some rest else none

/-- A date. -/
def date? (text : List Char) : Option (Calendar.Date × List Char) := do
  let (year, rest) ← year? text
  let (month, rest) ← part? 1 12 (← mark? '-' rest)
  let (day, rest) ← part? 1 31 (← mark? '-' rest)
  let date : Calendar.Date := ⟨year, month, day⟩
  if date.isValid && isYearInRange year then some (date, rest) else none

/-- A fraction of a second in nanoseconds, of which digits beyond the ninth do not count; zero
when there is none. -/
def fraction? (text : List Char) : Option (Nat × List Char) :=
  match text with
  | '.' :: rest =>
    let digits := rest.takeWhile (isDigitOf 10)
    if digits.isEmpty then none
    else
      let counted := digits.take 9
      some (ofDigits 10 counted * Nat.pow 10 (9 - counted.length), rest.drop digits.length)
  | _ => some (0, text)

/-- The two digits at the start of a text. -/
def twoDigits? : List Char → Option (Nat × List Char)
  | tens :: ones :: rest =>
    if isDigitOf 10 tens && isDigitOf 10 ones then some (ofDigits 10 [tens, ones], rest) else none
  | _ => none

/-- The seconds of an offset after its sign: hours, and minutes after any colons and blanks. -/
def unsignedOffset? (text : List Char) : Option (Int × List Char) := do
  let (hours, rest) ← twoDigits? text
  let (minutes, rest) ← twoDigits? (rest.dropWhile fun next => next == ':' || isBlank next)
  if minutes ≤ 59 && hours < 24 then some ((3600 * hours + 60 * minutes : Nat), rest) else none

/-- An offset from universal time in seconds. -/
def offset? (text : List Char) : Option (Int × List Char) :=
  match text with
  | 'Z' :: rest => some (0, rest)
  | 'z' :: rest => some (0, rest)
  | '+' :: rest => unsignedOffset? rest
  | '-' :: rest => (unsignedOffset? rest).map fun (seconds, after) => (-seconds, after)
  | '\u2212' :: rest => (unsignedOffset? rest).map fun (seconds, after) => (-seconds, after)
  | first :: second :: third :: rest =>
    if [first, second, third].map Char.toUpper = ['U', 'T', 'C'] then some (0, rest) else none
  | _ => none

/-- The point in time that a text stands for. -/
def parse? (text : String) : Option Timestamp := do
  let (date, rest) ← date? text.toList
  let rest ← match rest with
    | 'T' :: rest => some rest
    | 't' :: rest => some rest
    | ' ' :: rest => some rest
    | _ => none
  let (hour, rest) ← part? 0 23 rest
  let (minute, rest) ← part? 0 59 (← mark? ':' rest)
  let (second, rest) ← part? 0 60 (← mark? ':' rest)
  let (fraction, rest) ← fraction? rest
  let (offset, rest) ← offset? (skipBlanks rest)
  if !(skipBlanks rest).isEmpty then none
  else
    let ofDay : Nat := 3600 * hour + 60 * minute + min second 59
    let seconds := 86400 * date.dayNumber + ofDay - offset
    if isYearInRange (Calendar.Date.ofDayNumber (seconds / 86400)).year then
      some ⟨seconds, if second = 60 then fraction + 1000000000 else fraction⟩
    else none

/-! ### Writing -/

/-- A year in at least four digits, with a sign when it has more or is negative. -/
def yearText (year : Int) : List Char :=
  if 0 ≤ year && year ≤ 9999 then padded 4 year.toNat
  else (if year < 0 then '-' else '+') :: padded 4 year.natAbs

/-- A fraction of a second in three, six or nine digits, or nothing. -/
def fractionText (nanoseconds : Nat) : List Char :=
  if nanoseconds = 0 then []
  else if nanoseconds % 1000000 = 0 then '.' :: padded 3 (nanoseconds / 1000000)
  else if nanoseconds % 1000 = 0 then '.' :: padded 6 (nanoseconds / 1000)
  else '.' :: padded 9 nanoseconds

/-- A point in time in universal time. -/
def text (time : Timestamp) : String :=
  let date := Calendar.Date.ofDayNumber (time.seconds / 86400)
  let ofDay := (time.seconds % 86400).toNat
  let second := ofDay % 60 + time.nanoseconds / 1000000000
  String.ofList (yearText date.year ++ '-' :: padded 2 date.month ++ '-' :: padded 2 date.day ++
    'T' :: padded 2 (ofDay / 3600) ++ ':' :: padded 2 (ofDay / 60 % 60) ++ ':' :: padded 2 second ++
    fractionText (time.nanoseconds % 1000000000) ++ ['Z'])

end Timestamp

end Wayfinder
