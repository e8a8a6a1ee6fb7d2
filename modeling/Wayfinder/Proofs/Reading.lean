/-
This file proves that JSON text says what it was printed from: reading the text of a datum gives
the datum back, whether it was printed compactly or laid out over lines. The two forms differ only
in the spaces between tokens, so both are read by one argument about a form that puts any spaces
there. Every value is read up to where it was printed and no further, whatever follows it, as long
as what follows cannot be taken for more of a number. So data with the same text are equal.
-/
import Mathlib.Data.List.Basic
import Mathlib.Data.List.TakeWhile
import Wayfinder.Json.Printer
import Wayfinder.Json.Reader

namespace Wayfinder

/-! ### Digits -/

namespace Text

theorem hexValue?_of_isDigit {character : Char} (digit : character.isDigit = true) :
    hexValue? character = some (character.toNat - '0'.toNat) := by
  have inRange : '0' ≤ character ∧ character ≤ '9' := by
    simpa only [Char.isDigit, Bool.and_eq_true, decide_eq_true_eq, Char.le_def] using digit
  rw [hexValue?, if_pos inRange]

theorem isDigitOf_ten_of_isDigit {character : Char} (digit : character.isDigit = true) :
    isDigitOf 10 character = true := by
  have bound : character.toNat ≤ '9'.toNat := by
    simp only [Char.isDigit, Bool.and_eq_true, decide_eq_true_eq] at digit
    exact digit.2
  have small : character.toNat - '0'.toNat < 10 :=
    Nat.lt_of_le_of_lt (Nat.sub_le_sub_right bound _) (by decide)
  rw [isDigitOf, hexValue?_of_isDigit digit, Option.any_some, decide_eq_true_eq]
  exact small

theorem isDigit_of_mem_toDigits {number : Nat} {digit : Char}
    (member : digit ∈ Nat.toDigits 10 number) : digit.isDigit = true :=
  Nat.isDigit_of_mem_toDigits (by decide) (by decide) member

/-- A number is read back from its decimal digits. -/
theorem ofDigits_toDigits (number : Nat) : ofDigits 10 (Nat.toDigits 10 number) = number := by
  have valued : ofDigits 10 (Nat.toDigits 10 number) =
      Nat.ofDigitChars 10 (Nat.toDigits 10 number) 0 := by
    rw [Nat.ofDigitChars_eq_foldl, ofDigits]
    refine List.foldl_ext _ _ _ fun sofar digit member => ?_
    rw [hexValue?_of_isDigit (isDigit_of_mem_toDigits member), Option.getD_some]
  rw [valued, Nat.ofDigitChars_ten_toDigits]

/-- The decimal digits of a positive number do not start with a zero. -/
theorem head?_toDigits_ne_zero {number : Nat} (positive : 0 < number) :
    (Nat.toDigits 10 number).head? ≠ some '0' := by
  induction number using Nat.strongRecOn with
  | ind number inductionHypothesis =>
    rw [Nat.toDigits_eq_if (by decide)]
    split
    · next small =>
      have nonzero : ∀ digit < 10, 0 < digit → [Nat.digitChar digit].head? ≠ some '0' := by decide
      exact nonzero number small positive
    · next large =>
      have tens := inductionHypothesis (number / 10) (by omega) (by omega)
      rw [List.head?_append, Option.or_of_isSome (List.isSome_head?.2 Nat.toDigits_ne_nil)]
      exact tens

end Text

namespace Json

open Wayfinder.Text

/-! ### Numbers -/

theorem takeWhile_toDigits (number : Nat) :
    (Nat.toDigits 10 number).takeWhile (isDigitOf 10) = Nat.toDigits 10 number :=
  List.takeWhile_eq_self_iff.2 fun _ member =>
    isDigitOf_ten_of_isDigit (isDigit_of_mem_toDigits member)

theorem dropWhile_toDigits (number : Nat) :
    (Nat.toDigits 10 number).dropWhile (isDigitOf 10) = [] :=
  List.dropWhile_eq_nil_iff.2 fun _ member =>
    isDigitOf_ten_of_isDigit (isDigit_of_mem_toDigits member)

/-- Decimal digits are a whole number as JSON has it: there are some, and none too many. -/
theorem toDigits_whole (number : Nat) :
    ((Nat.toDigits 10 number).isEmpty || ((Nat.toDigits 10 number).head? == some '0' &&
      (Nat.toDigits 10 number).length != 1)) = false := by
  have notEmpty : (Nat.toDigits 10 number).isEmpty = false :=
    List.isEmpty_eq_false_iff.2 Nat.toDigits_ne_nil
  rw [notEmpty, Bool.false_or]
  cases number with
  | zero => rfl
  | succ number =>
    rw [beq_eq_false_iff_ne.2 (head?_toDigits_ne_zero (Nat.succ_pos number)), Bool.false_and]

theorem number?_toDigits (number : Nat) :
    number? (Nat.toDigits 10 number) = some (.integer number) := by
  unfold number?
  dsimp only
  split
  · next signed =>
    exact absurd (isDigit_of_mem_toDigits (signed ▸ List.mem_cons_self)) (by decide)
  · simp only [takeWhile_toDigits, dropWhile_toDigits, toDigits_whole, ofDigits_toDigits,
      List.isEmpty_nil, Bool.false_eq_true, if_true, if_false]

theorem number?_negative {number : Nat} (positive : 0 < number) :
    number? ('-' :: Nat.toDigits 10 number) = some (.integer (-number)) := by
  unfold number?
  simp only [takeWhile_toDigits, dropWhile_toDigits, toDigits_whole, ofDigits_toDigits,
    List.isEmpty_nil, Bool.false_eq_true, if_true, if_false, Nat.ne_of_gt positive]

theorem isNumberCharacter_of_isDigit {character : Char} (digit : character.isDigit = true) :
    isNumberCharacter character = true := by
  simp only [isNumberCharacter, isDigitOf_ten_of_isDigit digit, Bool.true_or]

/-- How an integer is printed: in decimal digits, after a sign if it is negative. -/
theorem toList_toString (value : Int) :
    (toString value).toList = Nat.toDigits 10 value.toNat ∧ 0 ≤ value ∨
      (toString value).toList = '-' :: Nat.toDigits 10 value.natAbs ∧ value < 0 := by
  rw [Int.toString_eq_repr, Int.repr_eq_if]
  split
  · next natural =>
    exact Or.inl ⟨by rw [Nat.repr_eq_ofList_toDigits, String.toList_ofList], natural⟩
  · next negative =>
    refine Or.inr ⟨?_, Int.not_le.1 negative⟩
    have size : (-value).toNat = value.natAbs := by omega
    rw [size, String.toList_append, Nat.repr_eq_ofList_toDigits]
    exact congrArg (List.cons '-') String.toList_ofList

theorem number?_toString (value : Int) :
    number? (toString value).toList = some (.integer value) := by
  rcases toList_toString value with ⟨digits, natural⟩ | ⟨digits, negative⟩
  · rw [digits, number?_toDigits, Int.toNat_of_nonneg natural]
  · have size : -(value.natAbs : Int) = value := by omega
    rw [digits, number?_negative (Int.natAbs_pos.2 (Int.ne_of_lt negative)), size]

theorem toString_isNumberCharacter (value : Int) :
    ∀ character ∈ (toString value).toList, isNumberCharacter character = true := by
  have digits : ∀ number, ∀ character ∈ Nat.toDigits 10 number,
      isNumberCharacter character = true := fun number character member =>
    isNumberCharacter_of_isDigit (isDigit_of_mem_toDigits member)
  rcases toList_toString value with ⟨printed, _⟩ | ⟨printed, _⟩
  · rw [printed]
    exact digits _
  · rw [printed, List.forall_mem_cons]
    exact ⟨by decide, digits _⟩

/-! ### Strings -/

/-- A character is printed in one of three ways: by a short escape, by its code, or as it is. -/
theorem escaped_cases (character : Char) :
    (∃ letter, escaped character = ['\\', letter] ∧ shortEscape? letter = some character) ∨
      (escaped character = '\\' :: 'u' :: '0' :: '0' :: twoHexDigits character.toNat ∧
        character.toNat < 0x20) ∨
      (escaped character = [character] ∧ character ≠ '"' ∧ character ≠ '\\' ∧
        ¬ character.toNat < 0x20) := by
  by_cases short : character ∈ ['"', '\\', '\x08', '\x0c', '\n', '\r', '\t']
  · simp only [List.mem_cons, List.not_mem_nil, or_false] at short
    left
    rcases short with rfl | rfl | rfl | rfl | rfl | rfl | rfl <;> exact ⟨_, rfl, rfl⟩
  · simp only [List.mem_cons, List.not_mem_nil, or_false, not_or] at short
    right
    simp only [escaped, short, if_false]
    split
    · next control => exact Or.inl ⟨rfl, control⟩
    · next printable => exact Or.inr ⟨rfl, short.1, short.2.1, printable⟩

/-- The two digits that a control character is printed with give its code. -/
theorem ofDigits_twoHexDigits : ∀ code < 0x20,
    ('0' :: '0' :: twoHexDigits code).all (isDigitOf 16) = true ∧
      ofDigits 16 ('0' :: '0' :: twoHexDigits code) = code := by
  decide

/-- A unit stands for a character, whatever units follow it. -/
def Unit16.StandsFor (unit : Unit16) (character : Char) : Prop :=
  ∀ units, joinUnits (unit :: units) = (joinUnits units).map (character :: ·)

theorem standsFor_character (character : Char) :
    (Unit16.character character).StandsFor character :=
  fun _ => rfl

theorem standsFor_code {character : Char} (control : character.toNat < 0x20) :
    (Unit16.code character.toNat).StandsFor character := by
  intro units
  have notHigh : ¬ (0xd800 ≤ character.toNat ∧ character.toNat < 0xdc00) := by omega
  have notLow : ¬ (0xdc00 ≤ character.toNat ∧ character.toNat < 0xe000) := by omega
  rw [joinUnits.eq_def]
  dsimp only
  rw [if_neg notHigh, if_neg notLow, Char.ofNat_toNat]

/-- A printed character is read as one unit, which stands for it. -/
theorem stringUnits_escaped (character : Char) :
    ∃ unit : Unit16, unit.StandsFor character ∧ ∀ rest,
      stringUnits (escaped character ++ rest) =
        (stringUnits rest).map fun read => (unit :: read.1, read.2) := by
  rcases escaped_cases character with
    ⟨letter, printed, short⟩ | ⟨printed, control⟩ | ⟨printed, notQuote, notBackslash, printable⟩
  · refine ⟨_, standsFor_character character, fun rest => ?_⟩
    rw [printed, stringUnits.eq_def]
    dsimp only [List.cons_append, List.nil_append]
    rw [if_neg (by decide), if_pos rfl]
    split
    · next is => cases is; cases short
    · next is => cases is; rw [short]
    · next is => cases is
  · obtain ⟨hexadecimal, code⟩ := ofDigits_twoHexDigits _ control
    refine ⟨_, standsFor_code control, fun rest => ?_⟩
    rw [printed, twoHexDigits]
    refine (if_pos hexadecimal).trans ?_
    show (stringUnits rest).map (fun read => (Unit16.code (ofDigits 16
      ('0' :: '0' :: twoHexDigits character.toNat)) :: read.1, read.2)) = _
    rw [code]
  · refine ⟨_, standsFor_character character, fun rest => ?_⟩
    rw [printed, stringUnits.eq_def]
    dsimp only [List.cons_append, List.nil_append]
    rw [if_neg notQuote, if_neg notBackslash, if_neg printable]

/-- The body of a printed string is read up to its closing quotation mark. -/
theorem stringUnits_flatMap_escaped (characters rest : List Char) :
    ∃ units, stringUnits (characters.flatMap escaped ++ '"' :: rest) = some (units, rest) ∧
      joinUnits units = some characters := by
  induction characters with
  | nil =>
    refine ⟨[], ?_, rfl⟩
    rw [List.flatMap_nil, List.nil_append, stringUnits.eq_def]
    dsimp only
    rw [if_pos rfl]
  | cons character later inductionHypothesis =>
    obtain ⟨units, read, joined⟩ := inductionHypothesis
    obtain ⟨unit, standsFor, first⟩ := stringUnits_escaped character
    refine ⟨unit :: units, ?_, ?_⟩
    · rw [List.flatMap_cons, List.append_assoc, first, read, Option.map_some]
    · rw [standsFor, joined, Option.map_some]

theorem stringBody_escaped (text : String) (rest : List Char) :
    stringBody (text.toList.flatMap escaped ++ '"' :: rest) = some (text, rest) := by
  obtain ⟨units, read, joined⟩ := stringUnits_flatMap_escaped text.toList rest
  rw [stringBody, read]
  simp only [joined, Option.bind_eq_bind, Option.bind_some, Option.pure_def, String.ofList_toList]

theorem string_append (text : String) (rest : List Char) :
    string text ++ rest = '"' :: (text.toList.flatMap escaped ++ '"' :: rest) := by
  rw [string, List.cons_append, List.cons_append, List.append_assoc, List.singleton_append]

end Json

/-- A datum that JSON can express: every number in it that is not a plain integer is a number
literal, which reading keeps as it is. -/
inductive Datum.IsJson : Datum → Prop where
  | null : IsJson .null
  | bool (value : Bool) : IsJson (.bool value)
  | integer (value : Int) : IsJson (.integer value)
  | real {literal : String} (numeral : Json.number? literal.toList = some (.real literal))
    (spelled : ∀ character ∈ literal.toList, Json.isNumberCharacter character = true) :
    IsJson (.real literal)
  | text (value : String) : IsJson (.text value)
  | list {items : List Datum} (each : ∀ item ∈ items, IsJson item) : IsJson (.list items)
  | record {members : List (String × Datum)} (each : ∀ member ∈ members, IsJson member.2) :
    IsJson (.record members)

/-- Whether a datum holds no other data. -/
def Datum.isScalar : Datum → Bool
  | .list _ | .record _ => false
  | _ => true

namespace Json

/-! ### The start and the end of a value -/

/-- A text starts with a value when it does not start with a space or the end of a list. -/
def StartsValue (text : List Char) : Prop :=
  ∃ first rest, text = first :: rest ∧ first ∉ [' ', '\t', '\n', '\r', ']']

/-- A text closes a value before it when it cannot be taken for more of a number. -/
def Closes (text : List Char) : Prop :=
  ∀ first ∈ text.head?, isNumberCharacter first = false

theorem StartsValue.append {text : List Char} (starts : StartsValue text) (rest : List Char) :
    StartsValue (text ++ rest) := by
  obtain ⟨first, later, rfl, solid⟩ := starts
  exact ⟨first, later ++ rest, rfl, solid⟩

theorem StartsValue.skipSpaces_eq {text : List Char} (starts : StartsValue text) :
    skipSpaces text = text := by
  obtain ⟨first, later, rfl, solid⟩ := starts
  simp only [List.mem_cons, List.not_mem_nil, or_false, not_or] at solid
  rw [skipSpaces, List.dropWhile_cons_of_neg]
  simp [solid]

theorem startsValue_of_isNumberCharacter {characters : List Char} (notEmpty : characters ≠ [])
    (spelled : ∀ character ∈ characters, isNumberCharacter character = true) :
    StartsValue characters := by
  obtain ⟨first, rest, rfl⟩ := List.exists_cons_of_ne_nil notEmpty
  refine ⟨first, rest, rfl, fun member => ?_⟩
  have excluded : ∀ character ∈ [' ', '\t', '\n', '\r', ']'],
      isNumberCharacter character = false := by
    simp only [List.forall_mem_cons]
    exact ⟨rfl, rfl, rfl, rfl, rfl, List.forall_mem_nil _⟩
  have kept := spelled first List.mem_cons_self
  rw [excluded first member] at kept
  cases kept

theorem Closes.takeWhile_eq {rest : List Char} (closes : Closes rest) :
    rest.takeWhile isNumberCharacter = [] := by
  cases rest with
  | nil => rfl
  | cons first later =>
    rw [List.takeWhile_cons_of_neg]
    exact Bool.not_eq_true _ ▸ closes first rfl

theorem Closes.dropWhile_eq {rest : List Char} (closes : Closes rest) :
    rest.dropWhile isNumberCharacter = rest := by
  cases rest with
  | nil => rfl
  | cons first later =>
    rw [List.dropWhile_cons_of_neg]
    exact Bool.not_eq_true _ ▸ closes first rfl

theorem closes_cons {first : Char} (closing : isNumberCharacter first = false)
    (rest : List Char) : Closes (first :: rest) := by
  intro other same
  rw [List.head?_cons, Option.mem_some_iff] at same
  rwa [← same]

theorem closes_append {spaces rest : List Char} (blank : skipSpaces spaces = [])
    (closes : Closes rest) : Closes (spaces ++ rest) := by
  cases spaces with
  | nil => exact closes
  | cons first later =>
    have space := List.dropWhile_eq_nil_iff.1 blank first List.mem_cons_self
    simp only [Bool.or_eq_true, beq_iff_eq] at space
    rcases space with ((rfl | rfl) | rfl) | rfl <;> exact closes_cons rfl _

theorem skipSpaces_append {spaces : List Char} (blank : skipSpaces spaces = [])
    (rest : List Char) : skipSpaces (spaces ++ rest) = skipSpaces rest :=
  List.dropWhile_append_of_pos (List.dropWhile_eq_nil_iff.1 blank)

theorem StartsValue.skipSpaces_append_eq {text : List Char} (starts : StartsValue text)
    {spaces : List Char} (blank : skipSpaces spaces = []) (rest : List Char) :
    skipSpaces (spaces ++ (text ++ rest)) = text ++ rest := by
  rw [skipSpaces_append blank, (starts.append rest).skipSpaces_eq]

/-! ### Values -/

/-- A number literal is read up to what closes it. -/
theorem value_number {literal : List Char} {datum : Datum} (read : number? literal = some datum)
    (spelled : ∀ character ∈ literal, isNumberCharacter character = true) {rest : List Char}
    (closes : Closes rest) (fuel : Nat) :
    value (fuel + 1) (literal ++ rest) = some (datum, rest) := by
  have whole : (literal ++ rest).takeWhile isNumberCharacter = literal := by
    rw [List.takeWhile_append_of_pos spelled, closes.takeWhile_eq, List.append_nil]
  have after : (literal ++ rest).dropWhile isNumberCharacter = rest := by
    rw [List.dropWhile_append_of_pos spelled, closes.dropWhile_eq]
  cases literal with
  | nil => cases read
  | cons first later =>
    have startsWith : ∀ {other tail}, first :: later ++ rest = other :: tail →
        isNumberCharacter other = true := by
      rintro _ _ ⟨⟩
      exact spelled first List.mem_cons_self
    unfold value
    split
    case h_7 => rw [whole, after, read, Option.map_some]
    all_goals next same => exact absurd (startsWith same) (by decide)

/-! ### Printed forms -/

/-- A printed form of data. Forms differ only in the spaces that they put between tokens: before
each item and member and before the end of what holds them, and after a colon. -/
structure Form where
  text : Nat → Datum → List Char
  itemsText : Nat → List Datum → List Char
  membersText : Nat → List (String × Datum) → List Char
  gap : Nat → List Char
  colonGap : List Char
  gap_spaces : ∀ level, skipSpaces (gap level) = []
  colonGap_spaces : skipSpaces colonGap = []
  text_scalar : ∀ level {datum}, datum.isScalar = true → text level datum = compact datum
  text_noItems : ∀ level, text level (.list []) = ['[', ']']
  text_list : ∀ level first rest, text level (.list (first :: rest)) =
    '[' :: (itemsText (level + 1) (first :: rest) ++ (gap level ++ [']']))
  text_noMembers : ∀ level, text level (.record []) = ['\x7b', '\x7d']
  text_record : ∀ level first rest, text level (.record (first :: rest)) =
    '\x7b' :: (membersText (level + 1) (first :: rest) ++ (gap level ++ ['\x7d']))
  itemsText_last : ∀ level item, itemsText level [item] = gap level ++ text level item
  itemsText_cons : ∀ level item next rest, itemsText level (item :: next :: rest) =
    gap level ++ (text level item ++ ',' :: itemsText level (next :: rest))
  membersText_last : ∀ level name datum, membersText level [(name, datum)] =
    gap level ++ (string name ++ ':' :: (colonGap ++ text level datum))
  membersText_cons : ∀ level name datum next rest,
    membersText level ((name, datum) :: next :: rest) =
      gap level ++ (string name ++ ':' :: (colonGap ++ (text level datum ++
        ',' :: membersText level (next :: rest))))

/-- The compact form puts no spaces anywhere. -/
def compactForm : Form where
  text _ := compact
  itemsText _ := compactItems
  membersText _ := compactMembers
  gap _ := []
  colonGap := []
  gap_spaces _ := rfl
  colonGap_spaces := rfl
  text_scalar _ _ _ := rfl
  text_noItems _ := rfl
  text_list _ _ _ := rfl
  text_noMembers _ := rfl
  text_record _ _ _ := rfl
  itemsText_last _ _ := rfl
  itemsText_cons _ _ _ _ := rfl
  membersText_last _ _ _ := rfl
  membersText_cons _ _ _ _ _ := by
    rw [compactMembers, List.append_assoc]
    rfl

theorem newLine_spaces (level : Nat) : skipSpaces (newLine level) = [] := by
  refine List.dropWhile_eq_nil_iff.2 fun character member => ?_
  rcases List.mem_cons.1 member with rfl | indented
  · rfl
  · rw [List.eq_of_mem_replicate indented]
    rfl

/-- The laid-out form starts new lines, and puts one space after a colon. -/
def laidOutForm : Form where
  text := layOut
  itemsText := layOutItems
  membersText := layOutMembers
  gap := newLine
  colonGap := [' ']
  gap_spaces := newLine_spaces
  colonGap_spaces := rfl
  text_scalar level datum scalar := by cases datum <;> first | rfl | cases scalar
  text_noItems _ := rfl
  text_list _ _ _ := by rw [layOut, List.cons_append, List.cons_append, List.append_assoc]
  text_noMembers _ := rfl
  text_record _ _ _ := by rw [layOut, List.cons_append, List.cons_append, List.append_assoc]
  itemsText_last _ _ := rfl
  itemsText_cons _ _ _ _ := by rw [layOutItems, List.append_assoc]
  membersText_last _ _ _ := by
    rw [layOutMembers, List.append_assoc]
    rfl
  membersText_cons _ _ _ _ _ := by
    rw [layOutMembers, List.append_assoc, List.append_assoc]
    rfl

/-! ### Reading printed values -/

theorem compact_startsValue {datum : Datum} (json : datum.IsJson) :
    StartsValue (compact datum) := by
  cases json with
  | null => exact ⟨_, _, rfl, by decide⟩
  | bool value => cases value <;> exact ⟨_, _, rfl, by decide⟩
  | integer value =>
    refine startsValue_of_isNumberCharacter (fun empty => ?_) (toString_isNumberCharacter value)
    have read := number?_toString value
    rw [compact] at empty
    rw [empty] at read
    cases read
  | real numeral spelled =>
    refine startsValue_of_isNumberCharacter (fun empty => ?_) spelled
    rw [compact] at empty
    rw [empty] at numeral
    cases numeral
  | text value => exact ⟨_, _, rfl, by decide⟩
  | list each => exact ⟨_, _, rfl, by decide⟩
  | record each => exact ⟨_, _, rfl, by decide⟩

variable (form : Form)

theorem Form.text_startsValue {datum : Datum} (json : datum.IsJson) (level : Nat) :
    StartsValue (form.text level datum) := by
  match datum, json with
  | .list [], _ => exact ⟨_, _, form.text_noItems level, by decide⟩
  | .list (_ :: _), _ => exact ⟨_, _, form.text_list level _ _, by decide⟩
  | .record [], _ => exact ⟨_, _, form.text_noMembers level, by decide⟩
  | .record (_ :: _), _ => exact ⟨_, _, form.text_record level _ _, by decide⟩
  | .null, json | .bool _, json | .integer _, json | .real _, json | .text _, json =>
    rw [form.text_scalar level rfl]
    exact compact_startsValue json

/-- A datum is read back from its text at every level, with fuel for each character of the text
and whatever closes the text. -/
def Form.ReadsBack (datum : Datum) : Prop :=
  ∀ level fuel rest, (form.text level datum).length < fuel → Closes rest →
    value fuel (form.text level datum ++ rest) = some (datum, rest)

theorem readsBack_of_succ {datum : Datum}
    (reads : ∀ level fuel rest, (form.text level datum).length ≤ fuel → Closes rest →
      value (fuel + 1) (form.text level datum ++ rest) = some (datum, rest)) :
    form.ReadsBack datum := by
  intro level fuel rest enough closes
  obtain ⟨fuel, rfl⟩ := Nat.exists_eq_succ_of_ne_zero (Nat.ne_zero_of_lt enough)
  exact reads level fuel rest (Nat.le_of_lt_succ enough) closes

theorem value_list {text : List Char} (starts : StartsValue (skipSpaces text)) (fuel : Nat) :
    value (fuel + 1) ('[' :: text) =
      (items fuel (skipSpaces text)).map fun read => (.list read.1, read.2) := by
  obtain ⟨first, rest, begins, solid⟩ := starts
  have notClosing : first ≠ ']' := by
    rintro rfl
    exact solid (by decide)
  rw [value, begins]
  split
  · next same => exact absurd (List.cons_eq_cons.1 same).1 notClosing
  · rfl

theorem value_record {text later : List Char} (quoted : skipSpaces text = '"' :: later)
    (fuel : Nat) :
    value (fuel + 1) ('\x7b' :: text) =
      (members fuel ('"' :: later)).map fun read => (.record read.1, read.2) := by
  rw [value, quoted]
  rfl

/-! ### Items and members -/

/-- The items of a list start with the first of them, after a gap. -/
theorem itemsText_eq_append (level : Nat) (first : Datum) (later : List Datum) :
    ∃ after, form.itemsText level (first :: later) =
      form.gap level ++ (form.text level first ++ after) := by
  cases later with
  | nil => exact ⟨[], by rw [form.itemsText_last, List.append_nil]⟩
  | cons next rest => exact ⟨_, form.itemsText_cons level first next rest⟩

theorem itemsText_startsValue {first : Datum} (json : first.IsJson) (level : Nat)
    (later : List Datum) (rest : List Char) :
    StartsValue (skipSpaces (form.itemsText level (first :: later) ++ rest)) := by
  obtain ⟨after, printed⟩ := itemsText_eq_append form level first later
  have starts := form.text_startsValue json level
  rw [printed, List.append_assoc, List.append_assoc,
    starts.skipSpaces_append_eq (form.gap_spaces level)]
  exact starts.append _

theorem string_startsValue (text : String) : StartsValue (string text) :=
  ⟨_, _, rfl, by decide⟩

/-- The members of a record start with the name of the first of them, after a gap. -/
theorem skipSpaces_membersText (level : Nat) (name : String) (datum : Datum)
    (later : List (String × Datum)) (rest : List Char) :
    ∃ after, skipSpaces (form.membersText level ((name, datum) :: later) ++ rest) =
      '"' :: after := by
  have starts := string_startsValue name
  cases later with
  | nil =>
    rw [form.membersText_last, List.append_assoc, List.append_assoc,
      starts.skipSpaces_append_eq (form.gap_spaces level)]
    exact ⟨_, rfl⟩
  | cons next later =>
    rw [form.membersText_cons, List.append_assoc, List.append_assoc,
      starts.skipSpaces_append_eq (form.gap_spaces level)]
    exact ⟨_, rfl⟩

variable {form}

/-- An item is read up to what closes it, and what is read next depends on that. -/
theorem items_text {item : Datum} (reads : form.ReadsBack item) (level : Nat) {fuel : Nat}
    (enough : (form.text level item).length < fuel) {after : List Char} (closes : Closes after) :
    items (fuel + 1) (form.text level item ++ after) =
      match skipSpaces after with
      | ',' :: next => (items fuel (skipSpaces next)).map fun read => (item :: read.1, read.2)
      | ']' :: rest => some ([item], rest)
      | _ => none := by
  rw [items, reads level fuel after enough closes]
  show (match skipSpaces after with
    | ',' :: next => (items fuel (skipSpaces next)).bind fun read => some (item :: read.1, read.2)
    | ']' :: rest => some ([item], rest)
    | _ => none) = _
  split
  · next => exact Option.map_eq_bind.symm
  · next => rfl
  · next => rfl

/-- The items of a list are read up to the end of the list. -/
theorem items_itemsText {first : Datum} {later : List Datum}
    (each : ∀ item ∈ first :: later, item.IsJson ∧ form.ReadsBack item) (level outer : Nat)
    (fuel : Nat) (rest : List Char)
    (enough : (form.itemsText level (first :: later)).length + 1 < fuel) :
    items fuel (skipSpaces (form.itemsText level (first :: later) ++
      (form.gap outer ++ ']' :: rest))) = some (first :: later, rest) := by
  obtain ⟨fuel, rfl⟩ := Nat.exists_eq_succ_of_ne_zero (Nat.ne_zero_of_lt enough)
  induction later generalizing first fuel with
  | nil =>
    obtain ⟨json, reads⟩ := each first List.mem_cons_self
    have starts := form.text_startsValue json level
    rw [form.itemsText_last, List.length_append] at enough
    rw [form.itemsText_last, List.append_assoc, starts.skipSpaces_append_eq (form.gap_spaces _),
      items_text reads level (by omega)
        (closes_append (form.gap_spaces outer) (closes_cons rfl rest)),
      skipSpaces_append (form.gap_spaces outer)]
    rfl
  | cons next later inductionHypothesis =>
    obtain ⟨⟨json, reads⟩, others⟩ := List.forall_mem_cons.1 each
    have starts := form.text_startsValue json level
    rw [form.itemsText_cons, List.length_append, List.length_append, List.length_cons] at enough
    obtain ⟨fuel, rfl⟩ : ∃ less, fuel = less + 1 := Nat.exists_eq_succ_of_ne_zero (by omega)
    have readRest := inductionHypothesis others fuel (by omega)
    rw [form.itemsText_cons, List.append_assoc, List.append_assoc, List.cons_append,
      starts.skipSpaces_append_eq (form.gap_spaces _),
      items_text reads level (by omega) (closes_cons rfl _)]
    show (items (fuel + 1) (skipSpaces _)).map _ = _
    rw [readRest]
    rfl

/-- A member is read up to what closes it, and what is read next depends on that. -/
theorem members_text {datum : Datum} (json : datum.IsJson) (reads : form.ReadsBack datum)
    (name : String) (level : Nat) {fuel : Nat} (enough : (form.text level datum).length < fuel)
    {after : List Char} (closes : Closes after) :
    members (fuel + 1) (string name ++ ':' :: (form.colonGap ++ (form.text level datum ++ after))) =
      match skipSpaces after with
      | ',' :: next =>
        (members fuel (skipSpaces next)).map fun read => ((name, datum) :: read.1, read.2)
      | '\x7d' :: rest => some ([(name, datum)], rest)
      | _ => none := by
  have starts := form.text_startsValue json level
  rw [string_append, members]
  show (stringBody _).bind _ = _
  rw [stringBody_escaped]
  show (value fuel (skipSpaces (form.colonGap ++ (form.text level datum ++ after)))).bind _ = _
  rw [starts.skipSpaces_append_eq form.colonGap_spaces, reads level fuel after enough closes]
  show (match skipSpaces after with
    | ',' :: next =>
      (members fuel (skipSpaces next)).bind fun read => some ((name, datum) :: read.1, read.2)
    | '\x7d' :: rest => some ([(name, datum)], rest)
    | _ => none) = _
  split
  · next => exact Option.map_eq_bind.symm
  · next => rfl
  · next => rfl

/-- The members of a record are read up to the end of the record. -/
theorem members_membersText {first : String × Datum} {later : List (String × Datum)}
    (each : ∀ member ∈ first :: later, member.2.IsJson ∧ form.ReadsBack member.2)
    (level outer : Nat) (fuel : Nat) (rest : List Char)
    (enough : (form.membersText level (first :: later)).length + 1 < fuel) :
    members fuel (skipSpaces (form.membersText level (first :: later) ++
      (form.gap outer ++ '\x7d' :: rest))) = some (first :: later, rest) := by
  obtain ⟨fuel, rfl⟩ := Nat.exists_eq_succ_of_ne_zero (Nat.ne_zero_of_lt enough)
  induction later generalizing first fuel with
  | nil =>
    obtain ⟨name, datum⟩ := first
    obtain ⟨json, reads⟩ : datum.IsJson ∧ form.ReadsBack datum := each _ List.mem_cons_self
    have starts := string_startsValue name
    rw [form.membersText_last] at enough ⊢
    simp only [List.length_append, List.length_cons] at enough
    simp only [List.append_assoc, List.cons_append]
    rw [starts.skipSpaces_append_eq (form.gap_spaces _),
      members_text json reads name level (by omega)
        (closes_append (form.gap_spaces outer) (closes_cons rfl rest)),
      skipSpaces_append (form.gap_spaces outer)]
    rfl
  | cons next later inductionHypothesis =>
    obtain ⟨name, datum⟩ := first
    obtain ⟨json, reads⟩ : datum.IsJson ∧ form.ReadsBack datum := each _ List.mem_cons_self
    have others := (List.forall_mem_cons.1 each).2
    have starts := string_startsValue name
    rw [form.membersText_cons] at enough ⊢
    simp only [List.length_append, List.length_cons] at enough
    obtain ⟨fuel, rfl⟩ : ∃ less, fuel = less + 1 := Nat.exists_eq_succ_of_ne_zero (by omega)
    have readRest := inductionHypothesis others fuel (by omega)
    simp only [List.append_assoc, List.cons_append]
    rw [starts.skipSpaces_append_eq (form.gap_spaces _),
      members_text json reads name level (by omega) (closes_cons rfl _)]
    show (members (fuel + 1) (skipSpaces _)).map _ = _
    rw [readRest]
    rfl

/-! ### Whole texts -/

/-- The text of a list or a record with what follows it. -/
theorem enclosed_append (opening closing : Char) (inside gap rest : List Char) :
    opening :: (inside ++ (gap ++ [closing])) ++ rest =
      opening :: (inside ++ (gap ++ closing :: rest)) := by
  simp only [List.cons_append, List.append_assoc, List.nil_append]

theorem length_enclosed (opening closing : Char) (inside gap : List Char) :
    inside.length + 1 < (opening :: (inside ++ (gap ++ [closing]))).length := by
  simp only [List.length_cons, List.length_append, List.length_nil]
  omega

/-- A datum that holds no other data is read back. -/
theorem readsBack_scalar {datum : Datum} (json : datum.IsJson) (scalar : datum.isScalar = true) :
    form.ReadsBack datum := by
  refine readsBack_of_succ form fun level fuel rest _ closes => ?_
  rw [form.text_scalar level scalar]
  cases json with
  | null => rfl
  | bool value => cases value <;> rfl
  | integer value =>
    exact value_number (number?_toString value) (toString_isNumberCharacter value) closes fuel
  | real numeral spelled => exact value_number numeral spelled closes fuel
  | text value =>
    rw [compact, string_append]
    show (stringBody _).map _ = _
    rw [stringBody_escaped]
    rfl
  | list => cases scalar
  | record => cases scalar

variable (form) in
/-- Every datum that JSON can express is read back from its text. -/
theorem readsBack {datum : Datum} (json : datum.IsJson) : form.ReadsBack datum := by
  induction json with
  | null => exact readsBack_scalar .null rfl
  | bool value => exact readsBack_scalar (.bool value) rfl
  | integer value => exact readsBack_scalar (.integer value) rfl
  | real numeral spelled => exact readsBack_scalar (.real numeral spelled) rfl
  | text value => exact readsBack_scalar (.text value) rfl
  | @list listed each inductionHypothesis =>
    refine readsBack_of_succ form fun level fuel rest enough _ => ?_
    cases listed with
    | nil =>
      rw [form.text_noItems]
      rfl
    | cons first later =>
      rw [form.text_list] at enough ⊢
      have read := items_itemsText
        (fun item member => ⟨each item member, inductionHypothesis item member⟩) (level + 1) level
        fuel rest (Nat.lt_of_lt_of_le (length_enclosed _ _ _ _) enough)
      have starts := itemsText_startsValue form (each first List.mem_cons_self)
        (level + 1) later (form.gap level ++ ']' :: rest)
      rw [enclosed_append, value_list starts, read]
      rfl
  | @record entries each inductionHypothesis =>
    refine readsBack_of_succ form fun level fuel rest enough _ => ?_
    cases entries with
    | nil =>
      rw [form.text_noMembers]
      rfl
    | cons first later =>
      rw [form.text_record] at enough ⊢
      have read := members_membersText
        (fun member inside => ⟨each member inside, inductionHypothesis member inside⟩) (level + 1)
        level fuel rest (Nat.lt_of_lt_of_le (length_enclosed _ _ _ _) enough)
      obtain ⟨after, quoted⟩ := skipSpaces_membersText form (level + 1) first.1 first.2
        later (form.gap level ++ '\x7d' :: rest)
      rw [quoted] at read
      rw [enclosed_append, value_record quoted, read]
      rfl

/-- Reading the text of a datum in a printed form, with spaces after it, gives the datum back. -/
theorem read_text (form : Form) {datum : Datum} (json : datum.IsJson) (spaces : List Char)
    (blank : skipSpaces spaces = []) :
    read (String.ofList (form.text 0 datum ++ spaces)) = some datum := by
  have closes : Closes spaces := by
    rw [← List.append_nil spaces]
    exact closes_append blank nofun
  have starts := (form.text_startsValue json 0).append spaces
  have whole := readsBack form json 0 ((form.text 0 datum ++ spaces).length + 1) spaces
    (by rw [List.length_append]; omega) closes
  rw [read, String.toList_ofList]
  rw [starts.skipSpaces_eq, whole]
  dsimp only
  rw [blank]
  rfl

/-- Reading the compact text of a datum gives the datum back. -/
theorem read_print {datum : Datum} (json : datum.IsJson) : read (print datum) = some datum := by
  have whole := read_text compactForm json [] rfl
  rwa [List.append_nil] at whole

/-- A line with the text of a datum on it is read too, and so are the lines of its laid-out text. -/
theorem read_line {datum : Datum} (json : datum.IsJson) :
    read (print datum ++ "\n") = some datum ∧ read (printPretty datum ++ "\n") = some datum := by
  have compactly := read_text compactForm json ['\n'] rfl
  have laidOut := read_text laidOutForm json ['\n'] rfl
  rw [String.ofList_append] at compactly laidOut
  exact ⟨compactly, laidOut⟩

/-- Data with the same compact text are equal. -/
theorem eq_of_print_eq {first second : Datum} (firstJson : first.IsJson)
    (secondJson : second.IsJson) (same : print first = print second) : first = second :=
  Option.some.inj ((read_print firstJson).symm.trans (same ▸ read_print secondJson))

end Json

end Wayfinder
