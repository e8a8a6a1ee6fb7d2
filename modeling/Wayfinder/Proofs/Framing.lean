/-
This file proves that every answer of a session is one line. Whatever the texts in an answer are,
its JSON has no character below the space, since those are escaped wherever a text is printed, as
a value or as a name. So the line feeds in the bytes that a session writes are the ends of its
answers and nothing else, and cutting the bytes at them gives the answers back.
-/
import Wayfinder.Proofs.Composition

namespace Wayfinder

/-- A datum in which no number occurs, so that everything it prints is a text or punctuation. -/
inductive Datum.Numberless : Datum → Prop where
  | null : Numberless .null
  | bool (value : Bool) : Numberless (.bool value)
  | text (value : String) : Numberless (.text value)
  | list {items : List Datum} (each : ∀ item ∈ items, Numberless item) : Numberless (.list items)
  | record {members : List (String × Datum)} (each : ∀ member ∈ members, Numberless member.2) :
    Numberless (.record members)

namespace Json

/-! ### Characters that stay on a line -/

/-- A character stays on its line when it is not below the space. -/
def IsInline (character : Char) : Prop :=
  0x20 ≤ character.toNat

instance (character : Char) : Decidable (IsInline character) :=
  Nat.decLe 0x20 character.toNat

/-- Characters that are written out are checked one by one. -/
theorem isInline_of_all {characters : List Char}
    (checked : characters.all (fun character => decide (IsInline character)) = true) :
    ∀ printed ∈ characters, IsInline printed :=
  fun printed member => of_decide_eq_true (List.all_eq_true.1 checked printed member)

theorem digitChar_isInline : ∀ digit < 16, IsInline (Nat.digitChar digit) := by
  decide

theorem twoHexDigits_isInline {code : Nat} (byte : code < 256) :
    ∀ printed ∈ twoHexDigits code, IsInline printed := by
  have high : code / 16 < 16 := by omega
  have low : code % 16 < 16 := Nat.mod_lt code (by decide)
  rw [twoHexDigits, List.forall_mem_cons, List.forall_mem_singleton]
  exact ⟨digitChar_isInline _ high, digitChar_isInline _ low⟩

/-- Every character is printed by characters that stay on the line. -/
theorem escaped_isInline (character : Char) : ∀ printed ∈ escaped character, IsInline printed := by
  unfold escaped
  by_cases control : character.toNat < 0x20
  · have digits := twoHexDigits_isInline (Nat.lt_trans control (by decide))
    have spelled : ∀ printed ∈ '\\' :: 'u' :: '0' :: '0' :: twoHexDigits character.toNat,
        IsInline printed := by
      simp only [List.forall_mem_cons]
      exact ⟨by decide, by decide, by decide, by decide, digits⟩
    rw [if_pos control]
    repeat' split
    all_goals first | exact spelled | exact isInline_of_all rfl
  · rw [if_neg control]
    have itself : ∀ printed ∈ [character], IsInline printed := by
      rw [List.forall_mem_singleton]
      exact Nat.not_lt.1 control
    repeat' split
    all_goals first | exact itself | exact isInline_of_all rfl

theorem string_isInline (text : String) : ∀ printed ∈ string text, IsInline printed := by
  rw [string, List.forall_mem_append, List.forall_mem_cons]
  refine ⟨⟨by decide, fun printed member => ?_⟩, isInline_of_all rfl⟩
  obtain ⟨character, _, spelled⟩ := List.mem_flatMap.1 member
  exact escaped_isInline character printed spelled

/-! ### The compact form stays on a line -/

theorem compactItems_isInline {items : List Datum}
    (each : ∀ item ∈ items, ∀ printed ∈ compact item, IsInline printed) :
    ∀ printed ∈ compactItems items, IsInline printed := by
  induction items with
  | nil => exact fun _ member => absurd member List.not_mem_nil
  | cons item rest inductionHypothesis =>
    obtain ⟨first, others⟩ := List.forall_mem_cons.1 each
    cases rest with
    | nil => exact first
    | cons next rest =>
      rw [compactItems, List.forall_mem_append, List.forall_mem_cons]
      exact ⟨first, by decide, inductionHypothesis others⟩

theorem compactMembers_isInline {members : List (String × Datum)}
    (each : ∀ member ∈ members, ∀ printed ∈ compact member.2, IsInline printed) :
    ∀ printed ∈ compactMembers members, IsInline printed := by
  induction members with
  | nil => exact fun _ member => absurd member List.not_mem_nil
  | cons member rest inductionHypothesis =>
    obtain ⟨first, others⟩ := List.forall_mem_cons.1 each
    have named : ∀ printed ∈ string member.1 ++ ':' :: compact member.2, IsInline printed := by
      rw [List.forall_mem_append, List.forall_mem_cons]
      exact ⟨string_isInline member.1, by decide, first⟩
    cases rest with
    | nil => exact named
    | cons next rest =>
      rw [compactMembers, List.forall_mem_append, List.forall_mem_cons]
      exact ⟨named, by decide, inductionHypothesis others⟩

/-- A datum without numbers is printed on one line. -/
theorem compact_isInline {datum : Datum} (numberless : datum.Numberless) :
    ∀ printed ∈ compact datum, IsInline printed := by
  induction numberless with
  | null => exact isInline_of_all rfl
  | bool value => cases value <;> exact isInline_of_all rfl
  | text value => exact string_isInline value
  | list _ inductionHypothesis =>
    rw [compact, List.forall_mem_append, List.forall_mem_cons]
    exact ⟨⟨by decide, compactItems_isInline inductionHypothesis⟩, isInline_of_all rfl⟩
  | record _ inductionHypothesis =>
    rw [compact, List.forall_mem_append, List.forall_mem_cons]
    exact ⟨⟨by decide, compactMembers_isInline inductionHypothesis⟩, isInline_of_all rfl⟩

end Json

/-! ### Answers have no numbers -/

namespace Datum.Numberless

theorem ofOption {Value : Type} {encode : Value → Datum} (each : ∀ value, (encode value).Numberless)
    (value? : Option Value) : (Datum.ofOption (value?.map encode)).Numberless := by
  cases value? with
  | none => exact .null
  | some value => exact each value

theorem texts (values : List String) : (Datum.texts values).Numberless :=
  .list (List.forall_mem_map.2 fun value _ => .text value)

theorem listOf {Value : Type} {encode : Value → Datum} (each : ∀ value, (encode value).Numberless)
    (values : List Value) : (Datum.list (values.map encode)).Numberless :=
  .list (List.forall_mem_map.2 fun value _ => each value)

theorem nil : (Datum.record []).Numberless :=
  .record fun _ member => absurd member List.not_mem_nil

theorem cons {name : String} {datum : Datum} {rest : List (String × Datum)}
    (first : datum.Numberless) (others : (Datum.record rest).Numberless) :
    (Datum.record ((name, datum) :: rest)).Numberless := by
  cases others with
  | record each => exact .record (List.forall_mem_cons.2 ⟨first, each⟩)

end Datum.Numberless

open Datum.Numberless (cons nil texts ofOption)

theorem Page.toDatum_numberless (page : Page) : page.toDatum.Numberless :=
  .text page.name

theorem Declaration.toDatum_numberless (declaration : Declaration) :
    declaration.toDatum.Numberless :=
  cons (.text _) (cons declaration.page.toDatum_numberless nil)

theorem TextMap.toDatum_numberless (map : TextMap) : map.toDatum.Numberless :=
  .record (List.forall_mem_map.2 fun entry _ => .text entry.2)

theorem Block.toDatum_numberless (block : Block) : block.toDatum.Numberless := by
  cases block with
  | heading value => exact cons (.text _) (cons (.text _) nil)
  | paragraph value => exact cons (.text _) (cons (.text _) nil)
  | icon name => exact cons (.text _) (cons (.text _) nil)
  | notice value => exact cons (.text _) (cons (.text _) nil)
  | form name fields => exact cons (.text _) (cons (.text _) (cons (texts fields) nil))
  | table name columns => exact cons (.text _) (cons (.text _) (cons (texts columns) nil))

theorem Content.toDatum_numberless (content : Content) : content.toDatum.Numberless :=
  cons (.text _) (cons (.listOf Block.toDatum_numberless content.blocks) nil)

theorem NavigationLink.toDatum_numberless (link : NavigationLink) : link.toDatum.Numberless :=
  cons (.text _) (cons (.text _) (cons (.bool _) nil))

theorem HeaderBar.toDatum_numberless (header : HeaderBar) : header.toDatum.Numberless :=
  cons (.text _) (cons (ofOption .text _) nil)

theorem ChromeFrame.toDatum_numberless (frame : ChromeFrame) : frame.toDatum.Numberless :=
  cons (.listOf NavigationLink.toDatum_numberless frame.sideNavigation)
    (cons frame.header.toDatum_numberless nil)

theorem Screen.toDatum_numberless (screen : Screen) : screen.toDatum.Numberless :=
  cons (.text _) (cons (ofOption .text _) (cons (ofOption Page.toDatum_numberless _)
    (cons screen.parameters.toDatum_numberless
      (cons (ofOption ChromeFrame.toDatum_numberless _)
        (cons (ofOption Content.toDatum_numberless _) nil)))))

/-- Whatever a session answers, no number occurs in the answer. -/
theorem Reply.toDatum_numberless (reply : Reply) : reply.toDatum.Numberless := by
  cases reply with
  | screen shown => exact shown.toDatum_numberless
  | routes declared => exact cons (.listOf Declaration.toDatum_numberless declared) nil
  | notice text => exact cons (.text _) nil
  | failure text => exact cons (.text _) nil

/-! ### Bytes -/

namespace Text

/-- The bytes of a text in UTF-8. -/
def bytes (text : String) : List UInt8 :=
  text.toUTF8.data.toList

theorem bytes_eq_flatMap (text : String) :
    bytes text = text.toList.flatMap String.utf8EncodeChar := by
  have whole : (String.ofList text.toList).toByteArray.data.toList =
      text.toList.flatMap String.utf8EncodeChar := by
    rw [String.toByteArray_ofList, List.utf8Encode, List.toList_data_toByteArray]
  rwa [String.ofList_toList] at whole

theorem bytes_append (first second : String) :
    bytes (first ++ second) = bytes first ++ bytes second := by
  rw [bytes_eq_flatMap, String.toList_append, List.flatMap_append, ← bytes_eq_flatMap,
    ← bytes_eq_flatMap]

theorem bytes_join (texts : List String) :
    bytes (String.join texts) = texts.flatMap bytes := by
  induction texts with
  | nil => rfl
  | cons text rest inductionHypothesis =>
    rw [String.join_cons, bytes_append, inductionHypothesis, List.flatMap_cons]

theorem ofNat_ge {code : Nat} (printable : 0x20 ≤ code) (byte : code < 256) :
    0x20 ≤ UInt8.ofNat code := by
  rw [UInt8.le_iff_toNat_le, UInt8.toNat_ofNat_of_lt' byte]
  exact printable

/-- A character that stays on its line has no byte below the space. -/
theorem utf8EncodeChar_ge {character : Char} (inline : Json.IsInline character) :
    ∀ byte ∈ String.utf8EncodeChar character, 0x20 ≤ byte := by
  have printable : 0x20 ≤ character.val.toNat := inline
  have none : ∀ byte ∈ ([] : List UInt8), 0x20 ≤ byte := List.forall_mem_nil _
  unfold String.utf8EncodeChar
  dsimp only
  -- Only a single byte can be small; the bytes of a longer sequence start at 128.
  split
  · exact List.forall_mem_cons.2 ⟨ofNat_ge printable (by omega), none⟩
  have continuing : ∀ part, 0x20 ≤ UInt8.ofNat (part % 64 + 128) := fun part =>
    ofNat_ge (by omega) (by omega)
  split
  · exact List.forall_mem_cons.2 ⟨ofNat_ge (by omega) (by omega),
      List.forall_mem_cons.2 ⟨continuing _, none⟩⟩
  split
  · exact List.forall_mem_cons.2 ⟨ofNat_ge (by omega) (by omega),
      List.forall_mem_cons.2 ⟨continuing _, List.forall_mem_cons.2 ⟨continuing _, none⟩⟩⟩
  · exact List.forall_mem_cons.2 ⟨ofNat_ge (by omega) (by omega),
      List.forall_mem_cons.2 ⟨continuing _, List.forall_mem_cons.2 ⟨continuing _,
        List.forall_mem_cons.2 ⟨continuing _, none⟩⟩⟩⟩

theorem bytes_ge {text : String} (inline : ∀ character ∈ text.toList, Json.IsInline character) :
    ∀ byte ∈ bytes text, 0x20 ≤ byte := by
  intro byte member
  rw [bytes_eq_flatMap] at member
  obtain ⟨character, inText, inCharacter⟩ := List.mem_flatMap.1 member
  exact utf8EncodeChar_ge (inline character inText) byte inCharacter

end Text

/-- The JSON of an answer has no byte below the space. -/
theorem Reply.json_bytes_ge (reply : Reply) : ∀ byte ∈ Text.bytes reply.json, 0x20 ≤ byte := by
  refine Text.bytes_ge ?_
  rw [json, Json.print, String.toList_ofList]
  exact Json.compact_isInline reply.toDatum_numberless

namespace Session

/-! ### Frames -/

/-- Pieces one after the other, each with a line feed at its end. -/
def framed (pieces : List (List UInt8)) : List UInt8 :=
  pieces.flatMap (· ++ [lineFeed])

theorem framed_cons (piece : List UInt8) (rest : List (List UInt8)) :
    framed (piece :: rest) = piece ++ lineFeed :: framed rest := by
  rw [framed, List.flatMap_cons, List.append_assoc, List.singleton_append, framed]

/-- Cutting at the line feeds gives the pieces back. -/
theorem splitOn_framed {pieces : List (List UInt8)} (whole : ∀ piece ∈ pieces, lineFeed ∉ piece) :
    (framed pieces).splitOn lineFeed = pieces ++ [[]] := by
  induction pieces with
  | nil => rfl
  | cons piece rest inductionHypothesis =>
    obtain ⟨first, others⟩ := List.forall_mem_cons.1 whole
    rw [framed_cons, List.splitOn_append_cons_self, List.splitOn_eq_singleton first,
      inductionHypothesis others, List.singleton_append, List.cons_append]

/-- There are as many line feeds as pieces. -/
theorem count_framed {pieces : List (List UInt8)} (whole : ∀ piece ∈ pieces, lineFeed ∉ piece) :
    (framed pieces).count lineFeed = pieces.length := by
  induction pieces with
  | nil => rfl
  | cons piece rest inductionHypothesis =>
    obtain ⟨first, others⟩ := List.forall_mem_cons.1 whole
    rw [framed_cons, List.count_append, List.count_eq_zero.2 first, List.count_cons_self,
      inductionHypothesis others, List.length_cons, Nat.zero_add]

theorem bytes_output {progress : Progress} (tallied : progress.IsTallied) :
    Text.bytes progress.output =
      framed (progress.replies.map fun reply => Text.bytes reply.json) := by
  have lineEnd : Text.bytes "\n" = [lineFeed] := by rw [Text.bytes_eq_flatMap]; rfl
  rw [tallied.output, Text.bytes_join, framed, List.flatMap_map, List.flatMap_map]
  refine congrArg (List.flatMap · progress.replies) (funext fun reply => ?_)
  rw [Reply.line, Text.bytes_append, lineEnd]

/-- One answer, one line: the bytes that a session writes are those of its answers, each followed
by a line feed. No answer has a byte below the space, so there are as many line feeds as answers
have been counted, and cutting at them gives the answers back in their order. -/
theorem output_framed (shell : Shell) (input : List UInt8) :
    let transcript := run shell input
    let written := Text.bytes transcript.output
    let answers := transcript.replies.map fun reply => Text.bytes reply.json
    written = framed answers ∧ (∀ answer ∈ answers, ∀ byte ∈ answer, 0x20 ≤ byte) ∧
      written.count lineFeed = transcript.count ∧ transcript.count = transcript.replies.length ∧
      written.splitOn lineFeed = answers ++ [[]] := by
  intro transcript written answers
  have tallied : transcript.IsTallied := runLines_isTallied shell (lines input)
  have frames : written = framed answers := bytes_output tallied
  have printable : ∀ answer ∈ answers, ∀ byte ∈ answer, 0x20 ≤ byte :=
    List.forall_mem_map.2 fun reply _ => reply.json_bytes_ge
  have whole : ∀ answer ∈ answers, lineFeed ∉ answer := fun answer member inside =>
    absurd (printable answer member lineFeed inside) (by decide)
  refine ⟨frames, printable, ?_, tallied.count, ?_⟩
  · rw [frames, count_framed whole, List.length_map, tallied.count]
  · rw [frames, splitOn_framed whole]

end Session

end Wayfinder
