/-
This file says what trimming leaves of a text: no blank character at either end, nothing at all
exactly when the text is blank, and the whole text when there is nothing to trim. Of a text that is
put together from two parts it trims each only at its outer end, as long as the second starts with
a word. Everything that is read after trimming -- the links and the lines of a session -- rests on
these facts.
-/
import Mathlib.Data.List.DropRight
import Wayfinder.Text.Blank

namespace Wayfinder.Text

theorem forall_dropWhile_iff (characters : List Char) :
    (∀ character ∈ characters.dropWhile isBlank, isBlank character = true) ↔
      ∀ character ∈ characters, isBlank character = true := by
  constructor
  · intro rest character member
    rw [← List.takeWhile_append_dropWhile (p := isBlank) (l := characters)] at member
    rcases List.mem_append.1 member with front | back
    · exact List.mem_takeWhile_imp front
    · exact rest character back
  · intro whole character member
    exact whole character ((List.dropWhile_sublist isBlank).mem member)

/-- Nothing is left of a text that is trimmed exactly when all of it is blank. -/
theorem trimmed_eq_nil_iff (characters : List Char) :
    trimmed characters = [] ↔ ∀ character ∈ characters, isBlank character = true := by
  rw [trimmed, dropTrailingBlanks, List.reverse_eq_nil_iff, List.dropWhile_eq_nil_iff]
  simp only [List.mem_reverse]
  exact forall_dropWhile_iff characters

/-- The texts without a blank character at either end. -/
structure IsTrimmed (characters : List Char) : Prop where
  start : ∀ character, characters.head? = some character → isBlank character = false
  ending : ∀ character, characters.getLast? = some character → isBlank character = false

theorem dropTrailingBlanks_eq (characters : List Char) :
    dropTrailingBlanks characters = characters.rdropWhile isBlank := rfl

/-- Trimming leaves no blank character at either end. -/
theorem trimmed_isTrimmed (characters : List Char) : IsTrimmed (trimmed characters) where
  start character first := by
    -- What is dropped at the end does not change the first character that is left.
    obtain ⟨dropped, whole⟩ := List.rdropWhile_prefix isBlank (characters.dropWhile isBlank)
    have first' : (characters.dropWhile isBlank).head? = some character := by
      rw [← whole, List.head?_append, ← dropTrailingBlanks_eq, ← trimmed, first, Option.some_or]
    have notBlank := List.head?_dropWhile_not isBlank characters
    rw [first'] at notBlank
    exact notBlank
  ending character last := by
    obtain ⟨notEmpty, rfl⟩ := List.mem_getLast?_eq_getLast (Option.mem_def.2 last)
    exact Bool.eq_false_iff.2 (List.rdropWhile_last_not isBlank _ notEmpty)

/-- A text without a blank character at either end is left as it is. -/
theorem trimmed_of_isTrimmed {characters : List Char} (isTrimmed : IsTrimmed characters) :
    trimmed characters = characters := by
  have start : characters.dropWhile isBlank = characters := by
    cases characters with
    | nil => rfl
    | cons first rest =>
      exact List.dropWhile_cons_of_neg (Bool.eq_false_iff.1 (isTrimmed.start first rfl))
  rw [trimmed, start, dropTrailingBlanks_eq, List.rdropWhile_eq_self_iff]
  intro notEmpty
  exact Bool.eq_false_iff.1 (isTrimmed.ending _ (List.getLast?_eq_some_getLast notEmpty))

/-! ### Trimmed texts -/

theorem toList_trim (text : String) : (trim text).toList = trimmed text.toList :=
  String.toList_ofList

theorem trim_isTrimmed (text : String) : IsTrimmed (trim text).toList := by
  rw [toList_trim]
  exact trimmed_isTrimmed text.toList

/-- Nothing is left of a text exactly when all of it is blank. -/
theorem isEmpty_trim_iff (text : String) :
    (trim text).isEmpty = true ↔ ∀ character ∈ text.toList, isBlank character = true := by
  rw [String.isEmpty_iff, ← String.toList_eq_nil_iff, toList_trim, trimmed_eq_nil_iff]

/-! ### Texts put together -/

/-- The texts that start with a character that is not blank. -/
def StartsWord (characters : List Char) : Prop :=
  ∃ first, characters.head? = some first ∧ isBlank first = false

theorem dropWhile_of_startsWord {characters : List Char} (starts : StartsWord characters) :
    characters.dropWhile isBlank = characters := by
  obtain ⟨first, head, notBlank⟩ := starts
  obtain ⟨rest, rfl⟩ := List.head?_eq_some_iff.1 head
  exact List.dropWhile_cons_of_neg (Bool.eq_false_iff.1 notBlank)

/-- What is left of a text in front of which blank characters are dropped starts with a word, if
anything is left. -/
theorem startsWord_dropWhile {characters : List Char}
    (left : characters.dropWhile isBlank ≠ []) : StartsWord (characters.dropWhile isBlank) := by
  obtain ⟨first, rest, whole⟩ := List.exists_cons_of_ne_nil left
  have notBlank := List.head?_dropWhile_not isBlank characters
  rw [whole] at notBlank
  exact ⟨first, congrArg List.head? whole, notBlank⟩

theorem startsWord_trimmed {characters : List Char} (left : trimmed characters ≠ []) :
    StartsWord (trimmed characters) := by
  obtain ⟨first, rest, whole⟩ := List.exists_cons_of_ne_nil left
  have head : (trimmed characters).head? = some first := congrArg List.head? whole
  exact ⟨first, head, (trimmed_isTrimmed characters).start first head⟩

/-- A text that starts with a word still starts with it when blank characters at the end are
dropped. -/
theorem head?_dropTrailingBlanks {characters : List Char} (starts : StartsWord characters) :
    (dropTrailingBlanks characters).head? = characters.head? := by
  obtain ⟨first, head, notBlank⟩ := starts
  obtain ⟨dropped, whole⟩ := List.rdropWhile_prefix isBlank characters
  have left : characters.rdropWhile isBlank ≠ [] := by
    intro nothing
    rw [List.rdropWhile_eq_nil_iff] at nothing
    rw [nothing first (List.mem_of_mem_head? head)] at notBlank
    cases notBlank
  rw [dropTrailingBlanks_eq]
  conv_rhs => rw [← whole]
  rw [List.head?_append_of_ne_nil _ left]

/-- A part at the end of a text that has no blank character at its end has none there either. -/
theorem ending_of_suffix {back characters : List Char} (isSuffix : back <:+ characters)
    (ending : ∀ character, characters.getLast? = some character → isBlank character = false)
    (character : Char) (last : back.getLast? = some character) : isBlank character = false := by
  obtain ⟨front, rfl⟩ := isSuffix
  refine ending character ?_
  rw [List.getLast?_append, last, Option.some_or]

theorem dropTrailingBlanks_of_ending {characters : List Char}
    (ending : ∀ character, characters.getLast? = some character → isBlank character = false) :
    dropTrailingBlanks characters = characters := by
  rw [dropTrailingBlanks_eq, List.rdropWhile_eq_self_iff]
  intro notEmpty
  exact Bool.eq_false_iff.1 (ending _ (List.getLast?_eq_some_getLast notEmpty))

/-- A text without a blank character at its end is trimmed only in front. -/
theorem trimmed_of_ending {characters : List Char}
    (ending : ∀ character, characters.getLast? = some character → isBlank character = false) :
    trimmed characters = characters.dropWhile isBlank :=
  dropTrailingBlanks_of_ending (ending_of_suffix (List.dropWhile_suffix isBlank) ending)

/-- Nothing is dropped at the end of a text in front of a part that starts with a word. -/
theorem dropTrailingBlanks_append (front : List Char) {back : List Char}
    (starts : StartsWord back) :
    dropTrailingBlanks (front ++ back) = front ++ dropTrailingBlanks back := by
  obtain ⟨first, head, notBlank⟩ := starts
  have kept : (back.reverse.dropWhile isBlank).isEmpty = false := by
    rw [List.isEmpty_eq_false_iff, Ne, List.dropWhile_eq_nil_iff]
    intro blank
    rw [blank first (List.mem_reverse.2 (List.mem_of_mem_head? head))] at notBlank
    cases notBlank
  rw [dropTrailingBlanks, List.reverse_append, List.dropWhile_append, kept,
    if_neg Bool.false_ne_true, List.reverse_append, List.reverse_reverse, dropTrailingBlanks]

/-- Trimming a text of two parts, of which the second starts with a word, trims each of them only
at its outer end. -/
theorem trimmed_append (front : List Char) {back : List Char} (starts : StartsWord back) :
    trimmed (front ++ back) = front.dropWhile isBlank ++ dropTrailingBlanks back := by
  have whole : (front ++ back).dropWhile isBlank = front.dropWhile isBlank ++ back := by
    rw [List.dropWhile_append, dropWhile_of_startsWord starts]
    split
    · next nothing => rw [List.isEmpty_iff.1 nothing, List.nil_append]
    · rfl
  rw [trimmed, whole, dropTrailingBlanks_append _ starts]

end Wayfinder.Text
