/-
This file gives the grammar of the lines of a session and proves that exactly its lines are read,
each as what the grammar says. A line counts without the blank characters around it. It is a link
on its own if it starts with a slash; otherwise its first word decides, and only a verb that takes
a link looks at what follows. A line without blank characters at its end has a link wherever it
has something after its first word, so that a verb lacks its link only when it is the whole line.
-/
import Wayfinder.Command
import Wayfinder.Proofs.Path
import Wayfinder.Proofs.Trimming

namespace Wayfinder.Command

/-! ### The grammar -/

/-- The first word of a text: what stands in front of its first blank character. -/
def firstWord (text : String) : String :=
  String.ofList (text.toList.takeWhile fun character => !Text.isBlank character)

/-- A text asks for a link when it is a verb, one or more blank characters, and the link, which is
not empty and does not start with a blank character. -/
def Asks (verb link text : String) : Prop :=
  ∃ gap : List Char, gap ≠ [] ∧ (∀ character ∈ gap, Text.isBlank character = true) ∧
    text.toList = verb.toList ++ (gap ++ link.toList) ∧ Text.StartsWord link.toList

/-- The verbs that take a link, with the commands that they make of it. -/
def linkVerbs : List (String × (String → Command)) :=
  [("go", navigate), ("navigate", navigate), ("replace", replace)]

/-- The verbs that take no link, with their commands. -/
def plainVerbs : List (String × Command) :=
  [("back", back), ("forward", forward), ("current", current), ("routes", routes),
    ("quit", quit), ("exit", quit)]

/-- All verbs. -/
def verbs : List String :=
  linkVerbs.map Prod.fst ++ plainVerbs.map Prod.fst

/-- What a line stands for, given its text without the blank characters around it. -/
inductive Reads (text : String) : Except CommandError (Option Command) → Prop where
  | blank (empty : text = "") : Reads text (.ok none)
  | shorthand (rooted : Path.IsRooted text) : Reads text (.ok (some (navigate text)))
  | link {verb target : String} {command : String → Command}
      (known : (verb, command) ∈ linkVerbs) (asks : Asks verb target text) :
      Reads text (.ok (some (command target)))
  | plain {command : Command} (known : (firstWord text, command) ∈ plainVerbs) :
      Reads text (.ok (some command))
  | needsPath (known : text ∈ linkVerbs.map Prod.fst) : Reads text (.error (.needsPath text))
  | unknown (notEmpty : text ≠ "") (bare : ¬ Path.IsRooted text)
      (strange : firstWord text ∉ verbs) : Reads text (.error (.unknown (firstWord text)))

/-! ### The first word and what follows it -/

/-- What follows the first word of a text, without the blank characters around it. -/
def remainder (text : String) : String :=
  String.ofList (Text.trimmed (text.toList.dropWhile fun character => !Text.isBlank character))

theorem toList_firstWord (text : String) :
    (firstWord text).toList =
      text.toList.takeWhile fun character => !Text.isBlank character :=
  String.toList_ofList

theorem toList_remainder (text : String) :
    (remainder text).toList =
      Text.trimmed (text.toList.dropWhile fun character => !Text.isBlank character) :=
  String.toList_ofList

section Asking

variable {verb link text : String} (asks : Asks verb link text)
variable (word : ∀ character ∈ verb.toList, Text.isBlank character = false)
include asks word

/-- The verb of a text that asks for a link is its first word. -/
theorem firstWord_of_asks : firstWord text = verb := by
  obtain ⟨gap, notEmpty, blank, whole, _⟩ := asks
  obtain ⟨first, rest, rfl⟩ := List.exists_cons_of_ne_nil notEmpty
  refine String.toList_inj.1 ?_
  rw [toList_firstWord, whole, List.takeWhile_append_of_pos (by simpa using word),
    List.cons_append, List.takeWhile_cons_of_neg (by simp [blank]), List.append_nil]

theorem remainder_of_asks (isTrimmed : Text.IsTrimmed text.toList) : remainder text = link := by
  obtain ⟨gap, notEmpty, blank, whole, starts⟩ := asks
  obtain ⟨first, rest, rfl⟩ := List.exists_cons_of_ne_nil notEmpty
  have follows : text.toList.dropWhile (fun character => !Text.isBlank character) =
      (first :: rest) ++ link.toList := by
    rw [whole, List.dropWhile_append_of_pos (by simpa using word), List.cons_append,
      List.dropWhile_cons_of_neg (by simp [blank])]
  have isSuffix : link.toList <:+ text.toList :=
    ⟨verb.toList ++ (first :: rest), by rw [whole, List.append_assoc]⟩
  have linkTrimmed : Text.IsTrimmed link.toList := by
    refine ⟨fun character head => ?_, Text.ending_of_suffix isSuffix isTrimmed.ending⟩
    obtain ⟨start, startHead, notBlank⟩ := starts
    cases startHead.symm.trans head
    exact notBlank
  refine String.toList_inj.1 ?_
  rw [toList_remainder, follows, Text.trimmed, List.dropWhile_append_of_pos blank, ← Text.trimmed,
    Text.trimmed_of_isTrimmed linkTrimmed]

end Asking

/-- A text with something after its first word asks for that. -/
theorem asks_remainder {text : String} (isTrimmed : Text.IsTrimmed text.toList)
    (left : remainder text ≠ "") : Asks (firstWord text) (remainder text) text := by
  set follows := text.toList.dropWhile fun character => !Text.isBlank character with isFollows
  set body := follows.dropWhile Text.isBlank with isBody
  have whole : (firstWord text).toList ++ follows = text.toList := by
    rw [toList_firstWord]
    exact List.takeWhile_append_dropWhile
  have parts : follows.takeWhile Text.isBlank ++ body = follows :=
    List.takeWhile_append_dropWhile
  have notEmpty : body ≠ [] := by
    intro nothing
    refine left (String.toList_inj.1 ?_)
    rw [toList_remainder, ← isFollows, Text.trimmed, ← isBody, nothing]
    rfl
  have starts : Text.StartsWord body := Text.startsWord_dropWhile notEmpty
  have isSuffix : body <:+ text.toList :=
    (List.dropWhile_suffix _).trans (List.dropWhile_suffix _)
  have link : (remainder text).toList = body := by
    rw [toList_remainder, ← isFollows, Text.trimmed, ← isBody]
    exact Text.dropTrailingBlanks_of_ending (Text.ending_of_suffix isSuffix isTrimmed.ending)
  refine ⟨follows.takeWhile Text.isBlank, fun nothing => ?_, fun character member => ?_, ?_, ?_⟩
  · -- The first character after the word is blank, and that of the link is not.
    rw [nothing, List.nil_append] at parts
    obtain ⟨first, head, notBlank⟩ := starts
    have stops := List.head?_dropWhile_not (fun character => !Text.isBlank character) text.toList
    rw [← isFollows, ← parts, head] at stops
    simp [notBlank] at stops
  · exact List.mem_takeWhile_imp member
  · rw [link, parts, whole]
  · rw [link]
    exact starts

/-- A text with nothing after its first word is that word. -/
theorem firstWord_eq_of_remainder {text : String} (isTrimmed : Text.IsTrimmed text.toList)
    (nothing : remainder text = "") : firstWord text = text := by
  have whole := List.takeWhile_append_dropWhile (p := fun character => !Text.isBlank character)
    (l := text.toList)
  have blank := (Text.trimmed_eq_nil_iff _).1
    ((toList_remainder text).symm.trans (congrArg String.toList nothing))
  have ends : (text.toList.dropWhile fun character => !Text.isBlank character) = [] := by
    by_contra notEmpty
    have notBlank := Text.ending_of_suffix (List.dropWhile_suffix _) isTrimmed.ending _
      (List.getLast?_eq_some_getLast notEmpty)
    rw [blank _ (List.getLast_mem notEmpty)] at notBlank
    cases notBlank
  rw [ends, List.append_nil] at whole
  exact String.toList_inj.1 ((toList_firstWord text).trans whole)

theorem firstWord_of_word {text : String}
    (word : ∀ character ∈ text.toList, Text.isBlank character = false) : firstWord text = text := by
  refine String.toList_inj.1 ?_
  rw [toList_firstWord, List.takeWhile_eq_self_iff]
  simpa using word

theorem remainder_of_word {text : String}
    (word : ∀ character ∈ text.toList, Text.isBlank character = false) : remainder text = "" := by
  have nothing : (text.toList.dropWhile fun character => !Text.isBlank character) = [] := by
    rw [List.dropWhile_eq_nil_iff]
    simpa using word
  rw [remainder, nothing]
  rfl

/-! ### Reading -/

theorem parse_of_empty {line : String} (empty : Text.trim line = "") : parse line = .ok none := by
  have nothing : Text.trimmed line.toList = [] := by
    rw [← Text.toList_trim, empty]
    rfl
  rw [parse, nothing]

theorem parse_of_rooted {line : String} (rooted : Path.IsRooted (Text.trim line)) :
    parse line = .ok (some (navigate (Text.trim line))) := by
  obtain ⟨rest, start⟩ := List.head?_eq_some_iff.1 rooted
  rw [Text.toList_trim] at start
  rw [parse, Text.trim, start]
  rfl

/-- Apart from the empty line and the links, the first word of a line decides. -/
theorem parse_of_word {line : String} (notEmpty : Text.trim line ≠ "")
    (bare : ¬ Path.IsRooted (Text.trim line)) :
    parse line = ofVerb (firstWord (Text.trim line)) (remainder (Text.trim line)) := by
  rw [firstWord, remainder, Text.toList_trim, parse]
  split
  · next nothing =>
    refine absurd (String.toList_inj.1 ?_) notEmpty
    rw [Text.toList_trim, nothing]
    rfl
  · next rest start =>
    refine absurd ?_ bare
    rw [Path.IsRooted, Text.toList_trim, start]
    rfl
  · have cut : (Text.trimmed line.toList).drop
        ((Text.trimmed line.toList).takeWhile fun character => !Text.isBlank character).length =
        (Text.trimmed line.toList).dropWhile fun character => !Text.isBlank character := by
      conv_lhs =>
        arg 2
        rw [← List.takeWhile_append_dropWhile (p := fun character => !Text.isBlank character)
          (l := Text.trimmed line.toList)]
      exact List.drop_left
    simp only [cut]

/-- A line whose first word is a verb is read by it. -/
theorem parse_of_verb {line verb : String} (word : firstWord (Text.trim line) = verb)
    (notEmpty : verb ≠ "") (bare : ¬ Path.IsRooted verb) :
    parse line = ofVerb verb (remainder (Text.trim line)) := by
  subst word
  refine parse_of_word (fun empty => ?_) (fun rooted => ?_)
  · rw [empty] at notEmpty
    exact notEmpty rfl
  · obtain ⟨rest, start⟩ := List.head?_eq_some_iff.1 rooted
    refine bare ?_
    rw [Path.IsRooted, toList_firstWord, start,
      List.takeWhile_cons_of_pos (by decide)]
    rfl

/-! ### Verbs -/

/-- Verbs are words: not empty, without blank characters, and no links. -/
structure IsWord (verb : String) : Prop where
  notEmpty : verb ≠ ""
  bare : ¬ Path.IsRooted verb
  word : ∀ character ∈ verb.toList, Text.isBlank character = false

theorem verbs_isWord : ∀ verb ∈ verbs, IsWord verb := by
  have checked : ∀ verb ∈ verbs, verb ≠ "" ∧ ¬ Path.IsRooted verb ∧
      verb.toList.all (!Text.isBlank ·) = true := by
    decide +kernel
  intro verb member
  obtain ⟨notEmpty, bare, word⟩ := checked verb member
  refine ⟨notEmpty, bare, fun character inside => ?_⟩
  simpa using List.all_eq_true.1 word character inside

theorem mem_verbs_of_link {verb : String} {command : String → Command}
    (known : (verb, command) ∈ linkVerbs) : verb ∈ verbs :=
  List.mem_append_left _ (List.mem_map_of_mem known)

theorem mem_verbs_of_plain {verb : String} {command : Command}
    (known : (verb, command) ∈ plainVerbs) : verb ∈ verbs :=
  List.mem_append_right _ (List.mem_map_of_mem known)

theorem ofVerb_of_link {verb : String} {command : String → Command}
    (known : (verb, command) ∈ linkVerbs) (argument : String) :
    ofVerb verb argument = withLink command verb argument := by
  simp only [linkVerbs, List.mem_cons, Prod.mk.injEq, List.not_mem_nil, or_false] at known
  rcases known with ⟨rfl, rfl⟩ | ⟨rfl, rfl⟩ | ⟨rfl, rfl⟩ <;> rfl

theorem ofVerb_of_plain {verb : String} {command : Command}
    (known : (verb, command) ∈ plainVerbs) (argument : String) :
    ofVerb verb argument = .ok (some command) := by
  simp only [plainVerbs, List.mem_cons, Prod.mk.injEq, List.not_mem_nil, or_false] at known
  rcases known with ⟨rfl, rfl⟩ | ⟨rfl, rfl⟩ | ⟨rfl, rfl⟩ | ⟨rfl, rfl⟩ | ⟨rfl, rfl⟩ | ⟨rfl, rfl⟩ <;>
    rfl

theorem ofVerb_of_strange {verb : String} (strange : verb ∉ verbs) (argument : String) :
    ofVerb verb argument = .error (.unknown verb) := by
  simp only [verbs, linkVerbs, plainVerbs, List.map_cons, List.map_nil, List.cons_append,
    List.nil_append, List.mem_cons, List.not_mem_nil, or_false, not_or] at strange
  unfold ofVerb
  split <;> simp_all

/-! ### The grammar and the reader -/

/-- A line that is neither empty nor a link stands for what its first word makes of the rest. -/
theorem reads_ofVerb {text : String} (isTrimmed : Text.IsTrimmed text.toList) (notEmpty : text ≠ "")
    (bare : ¬ Path.IsRooted text) : Reads text (ofVerb (firstWord text) (remainder text)) := by
  by_cases strange : firstWord text ∉ verbs
  · rw [ofVerb_of_strange strange]
    exact Reads.unknown notEmpty bare strange
  · rcases List.mem_append.1 (not_not.1 strange) with takesLink | takesNone
    · obtain ⟨⟨verb, command⟩, known, word⟩ := List.mem_map.1 takesLink
      have here : (firstWord text, command) ∈ linkVerbs := word ▸ known
      rw [ofVerb_of_link here, withLink]
      split
      · next nothing =>
        rw [firstWord_eq_of_remainder isTrimmed nothing] at takesLink ⊢
        exact Reads.needsPath takesLink
      · next left => exact Reads.link here (asks_remainder isTrimmed left)
    · obtain ⟨⟨verb, command⟩, known, word⟩ := List.mem_map.1 takesNone
      have here : (firstWord text, command) ∈ plainVerbs := word ▸ known
      rw [ofVerb_of_plain here]
      exact Reads.plain here

/-- A line stands for what it is read as. -/
theorem reads_parse (line : String) : Reads (Text.trim line) (parse line) := by
  by_cases empty : Text.trim line = ""
  · rw [parse_of_empty empty]
    exact Reads.blank empty
  · by_cases rooted : Path.IsRooted (Text.trim line)
    · rw [parse_of_rooted rooted]
      exact Reads.shorthand rooted
    · rw [parse_of_word empty rooted]
      exact reads_ofVerb (Text.trim_isTrimmed line) empty rooted

/-- A line is read as what it stands for. -/
theorem parse_of_reads {line : String} {outcome : Except CommandError (Option Command)}
    (reads : Reads (Text.trim line) outcome) : parse line = outcome := by
  cases reads with
  | blank empty => exact parse_of_empty empty
  | shorthand rooted => exact parse_of_rooted rooted
  | link known asks =>
    obtain ⟨notEmpty, bare, word⟩ := verbs_isWord _ (mem_verbs_of_link known)
    have target := remainder_of_asks asks word (Text.trim_isTrimmed line)
    rw [parse_of_verb (firstWord_of_asks asks word) notEmpty bare, target, ofVerb_of_link known,
      withLink, if_neg]
    rintro rfl
    obtain ⟨_, _, _, _, first, head, _⟩ := asks
    cases head
  | plain known =>
    obtain ⟨notEmpty, bare, _⟩ := verbs_isWord _ (mem_verbs_of_plain known)
    rw [parse_of_verb rfl notEmpty bare, ofVerb_of_plain known]
  | needsPath known =>
    obtain ⟨notEmpty, bare, word⟩ := verbs_isWord _ (List.mem_append_left _ known)
    obtain ⟨⟨verb, command⟩, inTable, same⟩ := List.mem_map.1 known
    have here : (Text.trim line, command) ∈ linkVerbs := same ▸ inTable
    rw [parse_of_verb (firstWord_of_word word) notEmpty bare, remainder_of_word word,
      ofVerb_of_link here, withLink, if_pos rfl]
  | unknown notEmpty bare strange => rw [parse_of_word notEmpty bare, ofVerb_of_strange strange]

/-! ### A verb in front -/

theorem IsWord.startsWord {verb : String} (isWord : IsWord verb) (rest : List Char) :
    Text.StartsWord (verb.toList ++ rest) := by
  obtain ⟨first, others, whole⟩ :=
    List.exists_cons_of_ne_nil (mt String.toList_eq_nil_iff.1 isWord.notEmpty)
  refine ⟨first, by rw [whole]; rfl, isWord.word first ?_⟩
  rw [whole]
  exact List.mem_cons_self

/-- A verb and a space in front of a line that is not blank ask for what the line holds. -/
theorem asks_trim_append {verb : String} (isWord : IsWord verb) {line : String}
    (notBlank : Text.trim line ≠ "") :
    Asks verb (Text.trim line) (Text.trim (verb ++ " " ++ line)) := by
  set pad := line.toList.takeWhile Text.isBlank with isPad
  set body := line.toList.dropWhile Text.isBlank with isBody
  have link : (Text.trim line).toList = Text.dropTrailingBlanks body := Text.toList_trim line
  have left : (Text.trim line).toList ≠ [] := mt String.toList_eq_nil_iff.1 notBlank
  have starts : Text.StartsWord body := by
    refine Text.startsWord_dropWhile fun nothing => left ?_
    rw [link, isBody, nothing]
    rfl
  have whole : (verb ++ " " ++ line).toList = (verb.toList ++ ' ' :: pad) ++ body := by
    rw [String.toList_append, String.toList_append, List.append_assoc, List.append_assoc,
      List.cons_append, isPad, isBody, List.takeWhile_append_dropWhile]
    rfl
  refine ⟨' ' :: pad, List.cons_ne_nil _ _, ?_, ?_, ?_⟩
  · exact List.forall_mem_cons.2 ⟨by decide, fun _ member => List.mem_takeWhile_imp member⟩
  · rw [Text.toList_trim, whole, Text.trimmed_append _ starts,
      Text.dropWhile_of_startsWord (isWord.startsWord _), link, List.append_assoc]
  · rw [Text.toList_trim] at left ⊢
    exact Text.startsWord_trimmed left

/-- A verb that takes a link, in front of a line that is not blank, is read with what the line
holds. -/
theorem parse_verb_append {verb : String} {command : String → Command}
    (known : (verb, command) ∈ linkVerbs) {line : String} (notBlank : Text.trim line ≠ "") :
    parse (verb ++ " " ++ line) = .ok (some (command (Text.trim line))) :=
  parse_of_reads
    (Reads.link known (asks_trim_append (verbs_isWord verb (mem_verbs_of_link known)) notBlank))

/-- Exactly the lines of the grammar are read, each as what it stands for. Hence a link that is not
empty and has no blank characters around it is read after a verb that takes it, and a line that is
a link is read the same with and without the verb to go there in front. -/
theorem parse_accepts_grammar (line : String) :
    (∀ outcome, parse line = outcome ↔ Reads (Text.trim line) outcome) ∧
      (∀ link, link ≠ "" → Text.trim link = link →
        parse ("go " ++ link) = .ok (some (navigate link)) ∧
          parse ("replace " ++ link) = .ok (some (replace link))) ∧
      (Path.IsRooted (Text.trim line) → parse ("go " ++ line) = parse line) := by
  have goes : ("go", navigate) ∈ linkVerbs := List.mem_cons_self
  have replaces : ("replace", replace) ∈ linkVerbs := by simp [linkVerbs]
  refine ⟨fun outcome => ⟨?_, parse_of_reads⟩, fun link notEmpty same => ?_, fun rooted => ?_⟩
  · rintro rfl
    exact reads_parse line
  · have notBlank : Text.trim link ≠ "" := fun nothing => notEmpty (same.symm.trans nothing)
    have going := parse_verb_append goes notBlank
    have replacing := parse_verb_append replaces notBlank
    rw [same] at going replacing
    exact ⟨going, replacing⟩
  · have notBlank : Text.trim line ≠ "" := by
      intro nothing
      rw [nothing] at rooted
      cases rooted
    rw [parse_of_rooted rooted]
    exact parse_verb_append goes notBlank

theorem parse_accepts_grammar_market :
    (∀ outcome, parse "\t/market " = outcome ↔ Reads (Text.trim "\t/market ") outcome) ∧
      parse ("go " ++ "/a b") = .ok (some (navigate "/a b")) ∧
      parse ("replace " ++ "/a b") = .ok (some (replace "/a b")) ∧
      parse ("go " ++ "\t/market ") = parse "\t/market " := by
  obtain ⟨reads, links, shorthand⟩ := parse_accepts_grammar "\t/market "
  obtain ⟨going, replacing⟩ := links "/a b" (by decide) (by decide)
  exact ⟨reads, going, replacing, shorthand (by decide)⟩

end Wayfinder.Command
