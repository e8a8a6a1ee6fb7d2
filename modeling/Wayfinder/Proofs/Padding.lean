/-
This file proves that line ends and the blank characters around lines do not matter to a session.
A command is read from the text of a line without the blank characters around it, and blank text
put in front of a line or behind it makes the line neither valid nor invalid, because the bytes of
a text can be cut only between two characters. A carriage return is blank and an empty line holds
no command, so a session can as well be run over the pieces between the line feeds as they are. A
change of the input that keeps every piece but for blank text around it is then never noticed.
-/
import Mathlib.Logic.Relation
import Wayfinder.Proofs.Framing

namespace Wayfinder

namespace Text

/-! ### Cutting the bytes of a text -/

theorem bytes_injective {first second : String} (same : bytes first = bytes second) :
    first = second :=
  String.toByteArray_inj.1 (ByteArray.ext (Array.toList_inj.1 same))

theorem toByteArray_eq {text : String} {line : List UInt8} (spelled : bytes text = line) :
    text.toByteArray = ⟨line.toArray⟩ := by
  rw [← spelled]
  rfl

section Cut

variable {whole : String} {front back : List UInt8} (cut : bytes whole = front ++ back)

include cut

/-- The bytes of a text fall into two texts where they are cut between two characters. -/
theorem exists_texts_of_isValid (between : (String.Pos.Raw.mk front.length).IsValid whole) :
    ∃ first second, whole = first ++ second ∧ front = bytes first ∧ back = bytes second := by
  obtain ⟨first, second, rfl, here⟩ := String.Pos.Raw.isValid_iff_exists_append.1 between
  have asLong : front.length = (bytes first).length := congrArg String.Pos.Raw.byteIdx here
  obtain ⟨inFront, behind⟩ :=
    List.append_inj ((bytes_append first second).symm.trans cut).symm asLong
  exact ⟨first, second, rfl, inFront, behind⟩

theorem length_le_of_cut : String.Pos.Raw.mk front.length ≤ whole.rawEndPos := by
  rw [String.Pos.Raw.le_iff, String.byteIdx_rawEndPos, ← String.size_toByteArray,
    toByteArray_eq cut]
  simp [ByteArray.size]

/-- When the bytes of a text start with a text, what follows is a text. -/
theorem exists_of_bytes_eq_left {first : String} (starts : front = bytes first) :
    ∃ second, whole = first ++ second ∧ back = bytes second := by
  have between : (String.Pos.Raw.mk front.length).IsValid whole := by
    refine String.Pos.Raw.isValid_iff_isValidUTF8_extract_zero.2 ⟨length_le_of_cut cut, ?_⟩
    have taken : whole.toByteArray.extract 0 front.length = first.toByteArray := by
      rw [toByteArray_eq cut, toByteArray_eq starts.symm]
      exact ByteArray.ext (by simp)
    rw [taken]
    exact first.isValidUTF8
  obtain ⟨other, second, rfl, same, behind⟩ := exists_texts_of_isValid cut between
  exact ⟨second, by rw [bytes_injective (starts.symm.trans same)], behind⟩

/-- When the bytes of a text end with a text, what is in front of it is a text. -/
theorem exists_of_bytes_eq_right {second : String} (ends : back = bytes second) :
    ∃ first, whole = first ++ second ∧ front = bytes first := by
  have between : (String.Pos.Raw.mk front.length).IsValid whole := by
    refine String.Pos.Raw.isValid_iff_isValidUTF8_extract_utf8ByteSize.2
      ⟨length_le_of_cut cut, ?_⟩
    have dropped : whole.toByteArray.extract front.length whole.utf8ByteSize =
        second.toByteArray := by
      rw [← String.size_toByteArray, toByteArray_eq cut, toByteArray_eq ends.symm]
      exact ByteArray.ext (by simp [ByteArray.size])
    rw [dropped]
    exact second.isValidUTF8
  obtain ⟨first, other, rfl, inFront, same⟩ := exists_texts_of_isValid cut between
  exact ⟨first, by rw [bytes_injective (ends.symm.trans same)], inFront⟩

end Cut

/-! ### Blank text around a text -/

/-- The texts of which all is blank. -/
def IsPadding (text : String) : Prop :=
  ∀ character ∈ text.toList, isBlank character = true

instance (text : String) : Decidable (IsPadding text) :=
  decidable_of_iff (text.toList.all isBlank = true) List.all_eq_true

/-- Blank characters around a text are trimmed with it. -/
theorem trimmed_padded {front back : List Char}
    (blankFront : ∀ character ∈ front, isBlank character = true)
    (blankBack : ∀ character ∈ back, isBlank character = true) (characters : List Char) :
    trimmed (front ++ (characters ++ back)) = trimmed characters := by
  rw [trimmed, List.dropWhile_append_of_pos blankFront, List.dropWhile_append, trimmed]
  split
  · next nothing =>
    rw [List.isEmpty_iff.1 nothing, List.dropWhile_eq_nil_iff.2 blankBack]
  · rw [dropTrailingBlanks, List.reverse_append, List.dropWhile_append_of_pos, dropTrailingBlanks]
    simpa using blankBack

end Text

theorem Command.parse_padded {front back : String} (blankFront : Text.IsPadding front)
    (blankBack : Text.IsPadding back) (text : String) :
    parse (front ++ (text ++ back)) = parse text := by
  have same : Text.trimmed (front ++ (text ++ back)).toList = Text.trimmed text.toList := by
    rw [String.toList_append, String.toList_append, Text.trimmed_padded blankFront blankBack]
  rw [parse, parse, same]

namespace Session

open Text (bytes IsPadding)

/-! ### What a line says -/

/-- A line feed takes one byte, and no other character has that byte. -/
theorem lineFeed_mem_bytes_iff {text : String} : lineFeed ∈ bytes text ↔ '\n' ∈ text.toList := by
  rw [Text.bytes_eq_flatMap, List.mem_flatMap]
  constructor
  · rintro ⟨character, inText, inCharacter⟩
    have control : ¬ Json.IsInline character := fun inline =>
      absurd (Text.utf8EncodeChar_ge inline lineFeed inCharacter) (by decide)
    have checked : ∀ code < 0x20, lineFeed ∈ String.utf8EncodeChar (Char.ofNat code) →
        Char.ofNat code = '\n' := by decide
    have here := checked character.toNat (Nat.not_le.1 control)
    rw [Char.ofNat_toNat] at here
    exact here inCharacter ▸ inText
  · intro inText
    exact ⟨'\n', inText, by decide⟩

theorem decodeLine_eq_some_iff {line : List UInt8} {text : String} :
    decodeLine line = some text ↔ line = bytes text := by
  unfold decodeLine String.fromUTF8?
  constructor
  · intro decoded
    split at decoded
    · cases decoded
      rfl
    · cases decoded
  · rintro rfl
    exact dif_pos text.isValidUTF8

/-- A line is valid with text in front of it exactly when it is valid alone. -/
theorem decodeLine_bytes_append (text : String) (line : List UInt8) :
    decodeLine (bytes text ++ line) = (decodeLine line).map (text ++ ·) := by
  refine Option.ext fun whole => ?_
  rw [decodeLine_eq_some_iff, Option.map_eq_some_iff]
  simp only [decodeLine_eq_some_iff]
  constructor
  · intro spelled
    obtain ⟨second, rfl, behind⟩ := Text.exists_of_bytes_eq_left spelled.symm rfl
    exact ⟨second, behind, rfl⟩
  · rintro ⟨second, rfl, rfl⟩
    exact (Text.bytes_append text second).symm

/-- A line is valid with text behind it exactly when it is valid alone. -/
theorem decodeLine_append_bytes (line : List UInt8) (text : String) :
    decodeLine (line ++ bytes text) = (decodeLine line).map (· ++ text) := by
  refine Option.ext fun whole => ?_
  rw [decodeLine_eq_some_iff, Option.map_eq_some_iff]
  simp only [decodeLine_eq_some_iff]
  constructor
  · intro spelled
    obtain ⟨first, rfl, inFront⟩ := Text.exists_of_bytes_eq_right spelled.symm rfl
    exact ⟨first, inFront, rfl⟩
  · rintro ⟨first, rfl, rfl⟩
    exact (Text.bytes_append first text).symm

/-- Blank text around a line does not change what a session makes of it. -/
theorem reading_padded {front back : String} (blankFront : IsPadding front)
    (blankBack : IsPadding back) (line : List UInt8) :
    reading (bytes front ++ (line ++ bytes back)) = reading line := by
  rw [reading, decodeLine_bytes_append, decodeLine_append_bytes, Option.map_map, Option.map_map]
  exact Option.map_congr fun text _ => Command.parse_padded blankFront blankBack text

/-- A carriage return at the end of a line is blank. -/
theorem reading_dropCarriageReturn (line : List UInt8) :
    reading (dropCarriageReturn line) = reading line := by
  rw [dropCarriageReturn]
  split
  · next last =>
    obtain ⟨start, rfl⟩ := List.getLast?_eq_some_iff.1 last
    rw [List.dropLast_concat]
    have nothing : IsPadding "" := by decide
    have blank : IsPadding "\r" := by decide
    exact (reading_padded nothing blank start).symm
  · rfl

/-! ### Pieces between line feeds -/

theorem runLines_cons_congr {first second : List UInt8} (same : reading first = reading second)
    {firsts seconds : List (List UInt8)}
    (later : ∀ shell, runLines shell firsts = runLines shell seconds) (shell : Shell) :
    runLines shell (first :: firsts) = runLines shell (second :: seconds) := by
  have taken : turn (.start shell) first = turn (.start shell) second := by
    rw [turn, turn, same]
  rw [runLines_cons, runLines_cons, taken]
  cases turn (.start shell) second with
  | goesOn alone => exact congrArg alone.followedBy (later alone.shell)
  | ends transcript => rfl

/-- Lines of which a session makes the same are answered the same. -/
theorem runLines_congr {firsts seconds : List (List UInt8)}
    (same : firsts.map reading = seconds.map reading) (shell : Shell) :
    runLines shell firsts = runLines shell seconds := by
  induction firsts generalizing seconds shell with
  | nil => rw [List.map_eq_nil_iff.1 same.symm]
  | cons first rest inductionHypothesis =>
    obtain ⟨second, others, rfl, sameHead, sameRest⟩ := List.map_eq_cons_iff.1 same.symm
    exact runLines_cons_congr sameHead.symm (inductionHypothesis sameRest.symm) shell

/-- An empty line at the end of an input does nothing. -/
theorem runLines_concat_empty (lines : List (List UInt8)) (shell : Shell) :
    runLines shell (lines ++ [[]]) = runLines shell lines := by
  induction lines generalizing shell with
  | nil =>
    have decoded : decodeLine [] = some "" := decodeLine_eq_some_iff.2 rfl
    exact runLines_of_blank decoded rfl shell []
  | cons line rest inductionHypothesis =>
    exact runLines_cons_congr rfl inductionHypothesis shell

/-- A session over an input is one over the pieces between its line feeds. -/
theorem runLines_linesOfPieces (pieces : List (List UInt8)) (shell : Shell) :
    runLines shell (linesOfPieces pieces) = runLines shell pieces := by
  induction pieces using linesOfPieces.induct generalizing shell with
  | case1 => rfl
  | case2 => exact (runLines_concat_empty [] shell).symm
  | case3 last notEmpty =>
    rw [linesOfPieces]
    exact notEmpty
  | case4 piece next rest inductionHypothesis =>
    rw [linesOfPieces]
    exact runLines_cons_congr (reading_dropCarriageReturn piece) inductionHypothesis shell

theorem run_eq_runLines (shell : Shell) (input : List UInt8) :
    run shell input = runLines shell (input.splitOn lineFeed) :=
  runLines_linesOfPieces _ shell

/-! ### What an input says -/

/-- What a session makes of the pieces of an input. -/
def readings (input : List UInt8) : List (Option (Except CommandError (Option Command))) :=
  (input.splitOn lineFeed).map reading

theorem run_eq_of_readings {first second : List UInt8} (same : readings first = readings second)
    (shell : Shell) : run shell first = run shell second := by
  rw [run_eq_runLines, run_eq_runLines]
  exact runLines_congr same shell

theorem readings_append_lineFeed (first second : List UInt8) :
    readings (first ++ lineFeed :: second) = readings first ++ readings second := by
  rw [readings, List.splitOn_append_cons_self, List.map_append, readings, readings]

theorem readings_of_not_mem {line : List UInt8} (whole : lineFeed ∉ line) :
    readings line = [reading line] := by
  rw [readings, List.splitOn_eq_singleton whole, List.map_singleton]

/-- An input is one piece, or it has a last line feed. -/
theorem exists_last_piece (input : List UInt8) :
    lineFeed ∉ input ∨ ∃ start last, input = start ++ lineFeed :: last ∧ lineFeed ∉ last := by
  induction input with
  | nil => exact Or.inl List.not_mem_nil
  | cons byte rest inductionHypothesis =>
    rcases inductionHypothesis with whole | ⟨start, last, rfl, whole⟩
    · by_cases ends : lineFeed = byte
      · exact Or.inr ⟨[], rest, by rw [ends, List.nil_append], whole⟩
      · exact Or.inl (List.not_mem_cons_of_ne_of_not_mem ends whole)
    · exact Or.inr ⟨byte :: start, last, rfl, whole⟩

/-! ### Blank text around lines -/

section Pad

variable {pad : String} (blank : IsPadding pad) (oneLine : '\n' ∉ pad.toList)

include blank

theorem reading_bytes_append (line : List UInt8) : reading (bytes pad ++ line) = reading line := by
  have nothing : IsPadding "" := by decide
  have padded := reading_padded blank nothing line
  rwa [show bytes "" = [] from rfl, List.append_nil] at padded

theorem reading_append_bytes (line : List UInt8) : reading (line ++ bytes pad) = reading line := by
  have nothing : IsPadding "" := by decide
  exact reading_padded nothing blank line

include oneLine

/-- Blank text in front of the first line changes nothing. -/
theorem readings_bytes_append (input : List UInt8) :
    readings (bytes pad ++ input) = readings input := by
  have solid : lineFeed ∉ bytes pad := mt lineFeed_mem_bytes_iff.1 oneLine
  by_cases ends : lineFeed ∈ input
  · obtain ⟨first, rest, rfl, whole⟩ := List.eq_append_cons_of_mem ends
    rw [← List.append_assoc, readings_append_lineFeed, readings_append_lineFeed,
      readings_of_not_mem (List.not_mem_append solid whole), readings_of_not_mem whole,
      reading_bytes_append blank]
  · rw [readings_of_not_mem (List.not_mem_append solid ends), readings_of_not_mem ends,
      reading_bytes_append blank]

/-- Blank text behind the last line changes nothing. -/
theorem readings_append_bytes (input : List UInt8) :
    readings (input ++ bytes pad) = readings input := by
  have solid : lineFeed ∉ bytes pad := mt lineFeed_mem_bytes_iff.1 oneLine
  rcases exists_last_piece input with whole | ⟨start, last, rfl, whole⟩
  · rw [readings_of_not_mem (List.not_mem_append whole solid), readings_of_not_mem whole,
      reading_append_bytes blank]
  · rw [List.append_assoc, List.cons_append, readings_append_lineFeed, readings_append_lineFeed,
      readings_of_not_mem (List.not_mem_append whole solid), readings_of_not_mem whole,
      reading_append_bytes blank]

end Pad

/-! ### Changes of an input -/

/-- What comes after the end of a line: nothing, a line feed, or a carriage return with a line
feed. -/
def EndsLine (after : List UInt8) : Prop :=
  after = [] ∨ (∃ rest, after = lineFeed :: rest) ∨
    ∃ rest, after = carriageReturn :: lineFeed :: rest

/-- One change of the line ends of an input or of the blank text around its lines: a carriage
return in front of a line feed, a line feed at the end, or blank text without a line feed at the
start or at the end of a line. -/
inductive Edit : List UInt8 → List UInt8 → Prop where
  | carriageReturn (before after : List UInt8) :
    Edit (before ++ lineFeed :: after) (before ++ carriageReturn :: lineFeed :: after)
  | lastLineFeed (input : List UInt8) : Edit input (input ++ [lineFeed])
  | start {before : List UInt8} (starts : before = [] ∨ before.getLast? = some lineFeed)
    {pad : String} (blank : IsPadding pad) (oneLine : '\n' ∉ pad.toList) (after : List UInt8) :
    Edit (before ++ after) (before ++ (bytes pad ++ after))
  | ending (before : List UInt8) {pad : String} (blank : IsPadding pad)
    (oneLine : '\n' ∉ pad.toList) {after : List UInt8} (ends : EndsLine after) :
    Edit (before ++ after) (before ++ (bytes pad ++ after))

/-- Blank text at the end of a line changes nothing. -/
theorem readings_ending {pad : String} (blank : IsPadding pad) (oneLine : '\n' ∉ pad.toList)
    {after : List UInt8} (ends : EndsLine after) (before : List UInt8) :
    readings (before ++ (bytes pad ++ after)) = readings (before ++ after) := by
  have returns : IsPadding "\r" ∧ '\n' ∉ "\r".toList := by decide
  rcases ends with rfl | ⟨rest, rfl⟩ | ⟨rest, rfl⟩
  · rw [List.append_nil, List.append_nil, readings_append_bytes blank oneLine]
  · rw [← List.append_assoc, readings_append_lineFeed, readings_append_lineFeed,
      readings_append_bytes blank oneLine]
  · -- The carriage return is part of the blank text at the end of the line.
    have ending : ∀ line, readings (line ++ carriageReturn :: lineFeed :: rest) =
        readings line ++ readings rest := by
      intro line
      rw [← readings_append_bytes returns.1 returns.2 line, ← readings_append_lineFeed,
        List.append_assoc]
      rfl
    rw [← List.append_assoc, ending, ending, readings_append_bytes blank oneLine]

/-- Blank text at the start of a line changes nothing. -/
theorem readings_start {before : List UInt8}
    (starts : before = [] ∨ before.getLast? = some lineFeed) {pad : String}
    (blank : IsPadding pad) (oneLine : '\n' ∉ pad.toList) (after : List UInt8) :
    readings (before ++ (bytes pad ++ after)) = readings (before ++ after) := by
  rcases starts with rfl | last
  · exact readings_bytes_append blank oneLine after
  · obtain ⟨first, rfl⟩ := List.getLast?_eq_some_iff.1 last
    rw [List.append_assoc, List.append_assoc, List.singleton_append, List.singleton_append,
      readings_append_lineFeed, readings_append_lineFeed, readings_bytes_append blank oneLine]

/-- A session does not notice one change. -/
theorem run_eq_of_edit {input edited : List UInt8} (edit : Edit input edited) (shell : Shell) :
    run shell edited = run shell input := by
  cases edit with
  | carriageReturn before after =>
    have returns : IsPadding "\r" ∧ '\n' ∉ "\r".toList := by decide
    have ends : EndsLine (lineFeed :: after) := Or.inr (Or.inl ⟨after, rfl⟩)
    exact run_eq_of_readings (readings_ending returns.1 returns.2 ends before) shell
  | lastLineFeed =>
    rw [run_eq_runLines, List.splitOn_append_cons_self, List.splitOn_nil, runLines_concat_empty,
      ← run_eq_runLines]
  | start starts blank oneLine after =>
    exact run_eq_of_readings (readings_start starts blank oneLine after) shell
  | ending before blank oneLine ends =>
    exact run_eq_of_readings (readings_ending blank oneLine ends before) shell

/-- Line ends and the blank characters around lines do not matter to a session. Whatever bytes the
input has, after any changes of this kind the session gives the same answers, leaves the same
shell, and fails or not as before. -/
theorem run_eq_of_edited (shell : Shell) {input edited : List UInt8}
    (changes : Relation.ReflTransGen Edit input edited) :
    run shell edited = run shell input := by
  induction changes with
  | refl => rfl
  | tail _ edit inductionHypothesis => exact (run_eq_of_edit edit shell).trans inductionHypothesis

/-- A line that is not valid text stays invalid with a no-break space in front of it. -/
theorem run_eq_of_edited_invalid :
    let input : List UInt8 := [47, 10, 255]
    let edited : List UInt8 := [47, 13, 10, 194, 160, 255, 10]
    ∃ shell, Shell.standard {} { stamp := fun _ => default } = .ok shell ∧
      decodeLine [255] = none ∧ Relation.ReflTransGen Edit input edited ∧
        run shell edited = run shell input := by
  intro input edited
  obtain ⟨shell, built⟩ : ∃ shell, Shell.standard {} { stamp := fun _ => default } = .ok shell :=
    ⟨_, rfl⟩
  have invalid : decodeLine [255] = none := by decide +kernel
  have space : IsPadding "\u00a0" ∧ '\n' ∉ "\u00a0".toList := by decide
  have closed : [47, 13, 10].getLast? = some lineFeed := rfl
  have returned : Edit input [47, 13, 10, 255] := .carriageReturn [47] [255]
  have padded : Edit [47, 13, 10, 255] [47, 13, 10, 194, 160, 255] :=
    .start (Or.inr closed) space.1 space.2 [255]
  have ended : Edit [47, 13, 10, 194, 160, 255] edited := .lastLineFeed _
  have changes : Relation.ReflTransGen Edit input edited :=
    ((Relation.ReflTransGen.single returned).tail padded).tail ended
  exact ⟨shell, built, invalid, changes, run_eq_of_edited shell changes⟩

end Session

end Wayfinder
