/-
This file reads digits: the value of one digit in a base up to sixteen, and the number that a
row of digits stands for.
-/

namespace Wayfinder.Text

/-- The value of a hexadecimal digit of either case. -/
def hexValue? (character : Char) : Option Nat :=
  if '0' ≤ character ∧ character ≤ '9' then some (character.toNat - '0'.toNat)
  else if 'a' ≤ character ∧ character ≤ 'f' then some (character.toNat - 'a'.toNat + 10)
  else if 'A' ≤ character ∧ character ≤ 'F' then some (character.toNat - 'A'.toNat + 10)
  else none

/-- A character is a digit of a base when its value is below the base. -/
def isDigitOf (base : Nat) (character : Char) : Bool :=
  (hexValue? character).any (· < base)

/-- The number that a row of digits stands for in a base, most significant digit first. -/
def ofDigits (base : Nat) (digits : List Char) : Nat :=
  digits.foldl (fun number digit => base * number + (hexValue? digit).getD 0) 0

/-- A natural number in decimal digits, padded with zeros to a width. -/
def padded (width : Nat) (number : Nat) : List Char :=
  (Nat.toDigits 10 number).leftpad width '0'

end Wayfinder.Text
