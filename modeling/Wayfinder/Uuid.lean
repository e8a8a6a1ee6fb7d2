/-
This file reads and writes the identifiers of sessions and of history entries: numbers of 128
bits, written as 32 hexadecimal digits in groups of 8, 4, 4, 4 and 12.
-/
import Wayfinder.Text.Digits

namespace Wayfinder

/-- A universally unique identifier. -/
structure Uuid where
  bits : BitVec 128
  deriving DecidableEq, Repr, Inhabited

namespace Uuid

open Wayfinder.Text

/-- The identifier of 32 hexadecimal digits. -/
def ofDigits? (digits : List Char) : Option Uuid :=
  if digits.length = 32 && digits.all (isDigitOf 16) then
    some ⟨BitVec.ofNat 128 (ofDigits 16 digits)⟩
  else none

/-- The digits of a text in groups of 8, 4, 4, 4 and 12 with hyphens between the groups. -/
def ungroup? (characters : List Char) : Option (List Char) :=
  match characters.splitOn '-' with
  | [a, b, c, d, e] =>
    if [a, b, c, d, e].map List.length = [8, 4, 4, 4, 12] then some (a ++ b ++ c ++ d ++ e)
    else none
  | _ => none

/-- The name of the scheme that may stand before an identifier. -/
def scheme : List Char :=
  ['u', 'r', 'n', ':', 'u', 'u', 'i', 'd', ':']

/-- The characters after the name of the scheme, whose letters may be of either case. -/
def afterScheme? (characters : List Char) : Option (List Char) :=
  if (characters.take scheme.length).map Char.toLower = scheme then
    some (characters.drop scheme.length)
  else none

/-- The identifier that a text stands for: the digits in one row, or in groups, which may stand
in braces or after the name of the scheme. -/
def parse? (text : String) : Option Uuid :=
  let characters := text.toList
  match characters with
  | '\x7b' :: rest =>
    if rest.getLast? = some '\x7d' then (ungroup? rest.dropLast).bind ofDigits? else none
  | _ =>
    match afterScheme? characters with
    | some rest => (ungroup? rest).bind ofDigits?
    | none => (ungroup? characters).bind ofDigits? <|> ofDigits? characters

/-- The identifier of random bits, of which six are fixed to mark it as random. -/
def ofRandomBits (bits : BitVec 128) : Uuid :=
  let fixed : BitVec 128 := (0xf000 <<< 64) ||| (0x3 <<< 62)
  ⟨(bits &&& ~~~fixed) ||| (0x4000 <<< 64) ||| (0x2 <<< 62)⟩

/-- An identifier in groups of lower-case digits. -/
def text (identifier : Uuid) : String :=
  let digits := (Nat.toDigits 16 identifier.bits.toNat).leftpad 32 '0'
  let group := fun start length => (digits.drop start).take length
  String.ofList (['-'].intercalate
    [group 0 8, group 8 4, group 12 4, group 16 4, group 20 12])

end Uuid

end Wayfinder
