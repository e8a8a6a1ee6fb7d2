/-
This file says exactly which texts are patterns, and why another text is none. A pattern starts
with a slash; of what stands between the slashes after it, no part is empty, none is a colon
alone, and no two parts that start with a colon go on alike. A text without the slash is refused
for that reason, and every other text for the leftmost part that breaks one of these rules, given
the parts in front of it. A pattern that is read is written as the text that it was read from.
-/
import Mathlib.Data.List.Induction
import Wayfinder.Proofs.Matching

namespace Wayfinder.Pattern

/-! ### The rules -/

/-- What stands between the slashes of a text. -/
def partsOf (text : String) : List String :=
  (text.toList.splitOn '/').map String.ofList

/-- The lists of parts that the text of a pattern can have. -/
structure AreParts (parts : List String) : Prop where
  notEmpty : ∀ part ∈ parts, part ≠ ""
  named : ∀ part ∈ parts, part ≠ ":"
  distinct : parts.Pairwise fun earlier later => ∀ name, earlier = ":" ++ name → later ≠ ":" ++ name

/-- The texts of patterns. What comes after the first slash is in parts only if there is any. -/
def IsPatternText (text : String) : Prop :=
  ∃ rest, text = "/" ++ rest ∧ (rest ≠ "" → AreParts (partsOf rest))

/-- How a part breaks the rules, given the parts in front of it. -/
inductive Breaks (before : List String) (part : String) : PatternError → Prop where
  | empty : part = "" → Breaks before part .emptySegment
  | unnamed : part = ":" → Breaks before part .unnamedParameter
  | repeated (name : String) : name ≠ "" → part = ":" ++ name → part ∈ before →
      Breaks before part (.repeatedParameter name)

/-- Why a text is no pattern: it lacks the slash, or else a part of it is the leftmost one that
breaks the rules. -/
inductive Refused (text : String) : PatternError → Prop where
  | bare : ¬ Path.IsRooted text → Refused text .noLeadingSlash
  | broken (rest : String) (before : List String) (part : String) (after : List String)
      (error : PatternError) : text = "/" ++ rest → rest ≠ "" →
      partsOf rest = before ++ part :: after → AreParts before → Breaks before part error →
      Refused text error

/-! ### Part after part -/

theorem areParts_nil : AreParts [] where
  notEmpty _ member := absurd member List.not_mem_nil
  named _ member := absurd member List.not_mem_nil
  distinct := List.Pairwise.nil

theorem AreParts.of_append {before after : List String} (parts : AreParts (before ++ after)) :
    AreParts before where
  notEmpty part member := parts.notEmpty part (List.mem_append_left after member)
  named part member := parts.named part (List.mem_append_left after member)
  distinct := (List.pairwise_append.1 parts.distinct).1

theorem AreParts.not_breaks {before : List String} {part : String}
    (parts : AreParts (before ++ [part])) (error : PatternError) : ¬ Breaks before part error := by
  have last : part ∈ before ++ [part] := List.mem_append_right before (List.mem_singleton_self part)
  intro breaks
  cases breaks with
  | empty empty => exact parts.notEmpty part last empty
  | unnamed unnamed => exact parts.named part last unnamed
  | repeated name _ written earlier =>
    have apart := (List.pairwise_append.1 parts.distinct).2.2
    exact apart part earlier part (List.mem_singleton_self part) name written written

theorem AreParts.concat {before : List String} {part : String} (parts : AreParts before)
    (unbroken : ∀ error, ¬ Breaks before part error) : AreParts (before ++ [part]) where
  notEmpty := List.forall_mem_append.2 ⟨parts.notEmpty, List.forall_mem_singleton.2 fun empty =>
    unbroken _ (.empty empty)⟩
  named := List.forall_mem_append.2 ⟨parts.named, List.forall_mem_singleton.2 fun unnamed =>
    unbroken _ (.unnamed unnamed)⟩
  distinct := by
    refine List.pairwise_append.2 ⟨parts.distinct, List.pairwise_singleton _ _, ?_⟩
    intro earlier member later last name writtenEarlier writtenLater
    obtain rfl := List.mem_singleton.1 last
    by_cases unnamed : name = ""
    · exact unbroken _ (.unnamed (by rw [writtenLater, unnamed]; rfl))
    · refine unbroken _ (.repeated name unnamed writtenLater ?_)
      rw [writtenLater, ← writtenEarlier]
      exact member

/-- Parts that do not all keep the rules have a leftmost one that breaks them. -/
theorem exists_breaks_of_not_areParts {parts : List String} (notParts : ¬ AreParts parts) :
    ∃ before part after error, parts = before ++ part :: after ∧ AreParts before ∧
      Breaks before part error := by
  -- The rules for a part look at the parts in front of it, so the parts are taken from the end.
  induction parts using List.reverseRecOn with
  | nil => exact absurd areParts_nil notParts
  | append_singleton before part inductionHypothesis =>
    by_cases earlier : AreParts before
    · have broken : ∃ error, Breaks before part error := by
        by_contra unbroken
        exact notParts (earlier.concat (not_exists.1 unbroken))
      obtain ⟨error, breaks⟩ := broken
      exact ⟨before, part, [], error, rfl, earlier, breaks⟩
    · obtain ⟨front, other, back, error, rfl, keeps, breaks⟩ := inductionHypothesis earlier
      refine ⟨front, other, back ++ [part], error, ?_, keeps, breaks⟩
      rw [List.append_assoc, List.cons_append]

/-! ### Reading a part -/

/-- A part is empty, a colon alone, a colon with a name, or a literal. -/
theorem part_cases (part : String) :
    part = "" ∨ part = ":" ∨ (∃ name, name ≠ "" ∧ part = ":" ++ name) ∨
      (part ≠ "" ∧ ∀ name, part ≠ ":" ++ name) := by
  by_cases empty : part = ""
  · exact Or.inl empty
  by_cases colon : ∃ name, part = ":" ++ name
  · obtain ⟨name, rfl⟩ := colon
    by_cases unnamed : name = ""
    · exact Or.inr (Or.inl (by rw [unnamed]; rfl))
    · exact Or.inr (Or.inr (Or.inl ⟨name, unnamed, rfl⟩))
  · exact Or.inr (Or.inr (Or.inr ⟨empty, not_exists.1 colon⟩))

theorem readSegment_parameter (used : List String) {name : String} (named : name ≠ "") :
    readSegment used (":" ++ name) =
      if name ∈ used then .error (.repeatedParameter name) else .ok (.parameter name) := by
  have characters : (":" ++ name).toList = ':' :: name.toList := String.toList_append
  unfold readSegment
  rw [characters]
  split
  · next empty => cases empty
  · next alone =>
    exact absurd (String.toList_eq_nil_iff.1 (List.cons.inj alone).2) named
  · next rest _ whole =>
    obtain rfl := (List.cons.inj whole).2
    rw [String.ofList_toList]
  · next notParameter => exact absurd rfl (notParameter name.toList)

theorem readSegment_literal (used : List String) {part : String} (notEmpty : part ≠ "")
    (notParameter : ∀ name, part ≠ ":" ++ name) :
    readSegment used part = .ok (.literal part) := by
  have notColon : ∀ rest, part.toList ≠ ':' :: rest := by
    intro rest characters
    obtain ⟨name, written⟩ : ∃ name, part = ":" ++ name :=
      Path.exists_append_of_head? rfl (congrArg List.head? characters)
    exact notParameter name written
  unfold readSegment
  split
  · next empty => exact absurd (String.toList_eq_nil_iff.1 empty) notEmpty
  · next alone => exact absurd alone (notColon [])
  · next rest _ characters => exact absurd characters (notColon rest)
  · rfl

/-- The names that are remembered are those that parts declare. -/
def Remembers (used before : List String) : Prop :=
  ∀ name, name ∈ used ↔ ":" ++ name ∈ before

theorem remembers_nil : Remembers [] [] :=
  fun _ => iff_of_false List.not_mem_nil List.not_mem_nil

section Remembering

variable {used before : List String} (remembers : Remembers used before)
include remembers

/-- A part cannot be read exactly when it breaks the rules. -/
theorem readSegment_eq_error_iff (part : String) (error : PatternError) :
    readSegment used part = .error error ↔ Breaks before part error := by
  constructor
  · intro refused
    rcases part_cases part with rfl | rfl | ⟨name, named, rfl⟩ | ⟨notEmpty, notParameter⟩
    · cases refused
      exact .empty rfl
    · cases refused
      exact .unnamed rfl
    · rw [readSegment_parameter used named] at refused
      split at refused
      · next inUsed =>
        cases refused
        exact .repeated name named rfl ((remembers name).1 inUsed)
      · cases refused
    · rw [readSegment_literal used notEmpty notParameter] at refused
      cases refused
  · intro breaks
    cases breaks with
    | empty empty => rw [empty]; rfl
    | unnamed unnamed => rw [unnamed]; rfl
    | repeated name named written earlier =>
      rw [written] at earlier ⊢
      rw [readSegment_parameter used named, if_pos ((remembers name).2 earlier)]

theorem remembers_concat {part : String} {segment : Segment}
    (read : readSegment used part = .ok segment) :
    Remembers ((parameterName? segment).toList ++ used) (before ++ [part]) := by
  intro other
  rw [List.mem_append, List.mem_append, remembers other, or_comm, List.mem_singleton]
  refine or_congr_right ?_
  rcases part_cases part with rfl | rfl | ⟨name, named, rfl⟩ | ⟨notEmpty, notParameter⟩
  · cases read
  · cases read
  · rw [readSegment_parameter used named] at read
    split at read
    · cases read
    · cases read
      rw [String.append_right_inj]
      exact List.mem_singleton
  · rw [readSegment_literal used notEmpty notParameter] at read
    cases read
    exact iff_of_false List.not_mem_nil fun written => notParameter other written.symm

end Remembering

/-! ### Reading all parts -/

/-- Among some parts, given those in front of them, one is the leftmost that breaks the rules. -/
def BreaksAmong (before parts : List String) (error : PatternError) : Prop :=
  ∃ front part back, parts = front ++ part :: back ∧ AreParts (before ++ front) ∧
    Breaks (before ++ front) part error

theorem breaksAmong_nil (before : List String) (error : PatternError) :
    ¬ BreaksAmong before [] error := by
  rintro ⟨front, part, back, nothing, _⟩
  exact List.append_ne_nil_of_right_ne_nil front (List.cons_ne_nil part back) nothing.symm

theorem breaksAmong_cons_iff {before : List String} (keeps : AreParts before) (first : String)
    (rest : List String) (error : PatternError) :
    BreaksAmong before (first :: rest) error ↔
      Breaks before first error ∨ BreaksAmong (before ++ [first]) rest error := by
  constructor
  · rintro ⟨front, part, back, parts, frontKeeps, breaks⟩
    cases front with
    | nil =>
      cases parts
      rw [List.append_nil] at breaks
      exact Or.inl breaks
    | cons head front =>
      cases parts
      rw [List.append_cons] at frontKeeps breaks
      exact Or.inr ⟨front, part, back, rfl, frontKeeps, breaks⟩
  · rintro (breaks | ⟨front, part, back, rfl, frontKeeps, breaks⟩)
    · rw [← List.append_nil before] at keeps breaks
      exact ⟨[], first, rest, rfl, keeps, breaks⟩
    · rw [← List.append_cons] at frontKeeps breaks
      exact ⟨first :: front, part, back, rfl, frontKeeps, breaks⟩

theorem readSegments_cons_of_error {used : List String} {first : String} {error : PatternError}
    (read : readSegment used first = .error error) (rest : List String) :
    readSegments used (first :: rest) = .error error := by
  rw [readSegments, read]

theorem readSegments_cons_of_ok {used : List String} {first : String} {segment : Segment}
    (read : readSegment used first = .ok segment) (rest : List String) :
    readSegments used (first :: rest) =
      (readSegments ((parameterName? segment).toList ++ used) rest).map (List.cons segment) := by
  rw [readSegments, read]
  dsimp only
  split <;> simp [*, Except.map]

/-- Parts cannot be read exactly when one of them breaks the rules, and the error is that of the
leftmost one that does. -/
theorem readSegments_eq_error_iff {used before : List String} (remembers : Remembers used before)
    (keeps : AreParts before) (parts : List String) (error : PatternError) :
    readSegments used parts = .error error ↔ BreaksAmong before parts error := by
  -- The parts that are already read keep the rules, and the names that they declare are the ones
  -- remembered; both go on to hold with one more part that could be read.
  induction parts generalizing used before with
  | nil => exact iff_of_false (fun refused => nomatch refused) (breaksAmong_nil before error)
  | cons first rest inductionHypothesis =>
    rw [breaksAmong_cons_iff keeps, ← readSegment_eq_error_iff remembers]
    cases read : readSegment used first with
    | error failure =>
      have breaks : Breaks before first failure := (readSegment_eq_error_iff remembers _ _).1 read
      have notLater : ¬ BreaksAmong (before ++ [first]) rest error := by
        rintro ⟨front, part, back, _, frontKeeps, _⟩
        exact frontKeeps.of_append.not_breaks failure breaks
      rw [readSegments_cons_of_error read, or_iff_left notLater, Except.error.injEq,
        Except.error.injEq]
    | ok segment =>
      have unbroken : ∀ failure, ¬ Breaks before first failure := by
        intro failure breaks
        rw [← readSegment_eq_error_iff remembers, read] at breaks
        cases breaks
      rw [readSegments_cons_of_ok read,
        ← inductionHypothesis (remembers_concat remembers read) (keeps.concat unbroken)]
      cases readSegments ((parameterName? segment).toList ++ used) rest <;> simp [Except.map]

/-- Parts can be read exactly when they keep the rules. -/
theorem exists_readSegments_iff (parts : List String) :
    (∃ segments, readSegments [] parts = .ok segments) ↔ AreParts parts := by
  have refused := readSegments_eq_error_iff remembers_nil areParts_nil parts
  constructor
  · rintro ⟨segments, read⟩
    by_contra notParts
    obtain ⟨before, part, after, error, rfl, keeps, breaks⟩ :=
      exists_breaks_of_not_areParts notParts
    have failed := (refused error).2 ⟨before, part, after, rfl, keeps, breaks⟩
    rw [read] at failed
    cases failed
  · intro keeps
    cases read : readSegments [] parts with
    | ok segments => exact ⟨segments, rfl⟩
    | error error =>
      obtain ⟨front, part, back, rfl, _, breaks⟩ := (refused error).1 read
      rw [List.nil_append] at breaks
      rw [List.append_cons] at keeps
      exact absurd breaks (keeps.of_append.not_breaks error)

/-! ### Reading a text -/

theorem split_slash_eq (rest : String) :
    Path.split ("/" ++ rest) = if rest = "" then [] else partsOf rest := by
  rw [Path.split_of_rooted String.toList_append]
  by_cases empty : rest = ""
  · rw [empty, if_pos rfl]
    rfl
  · rw [if_neg empty]
    show Path.segmentsOf rest.toList = partsOf rest
    unfold Path.segmentsOf
    split
    · next nothing => exact absurd (String.toList_eq_nil_iff.1 nothing) empty
    · rfl

theorem parse_slash (rest : String) :
    parse ("/" ++ rest) = (readSegments [] (Path.split ("/" ++ rest))).map Pattern.mk := by
  have characters : ("/" ++ rest).toList = '/' :: rest.toList := String.toList_append
  rw [parse, characters]
  rfl

theorem parse_of_not_rooted {text : String} (bare : ¬ Path.IsRooted text) :
    parse text = .error .noLeadingSlash := by
  unfold parse
  split
  · next rest characters => exact absurd (congrArg List.head? characters) bare
  · rfl

theorem exists_parse_slash_iff (rest : String) :
    (∃ pattern, parse ("/" ++ rest) = .ok pattern) ↔ (rest ≠ "" → AreParts (partsOf rest)) := by
  have read : (∃ pattern, parse ("/" ++ rest) = .ok pattern) ↔
      ∃ segments, readSegments [] (Path.split ("/" ++ rest)) = .ok segments := by
    rw [parse_slash]
    cases readSegments [] (Path.split ("/" ++ rest)) <;> simp [Except.map]
  rw [read, exists_readSegments_iff, split_slash_eq]
  by_cases empty : rest = ""
  · simp [empty, areParts_nil]
  · simp [empty]

theorem parse_slash_eq_error_iff (rest : String) (error : PatternError) :
    parse ("/" ++ rest) = .error error ↔ rest ≠ "" ∧ BreaksAmong [] (partsOf rest) error := by
  have read : parse ("/" ++ rest) = .error error ↔
      readSegments [] (Path.split ("/" ++ rest)) = .error error := by
    rw [parse_slash]
    cases readSegments [] (Path.split ("/" ++ rest)) <;> simp [Except.map]
  rw [read, readSegments_eq_error_iff remembers_nil areParts_nil, split_slash_eq]
  by_cases empty : rest = ""
  · simp [empty, breaksAmong_nil]
  · simp [empty]

/-- A text is read exactly when it is the text of a pattern. -/
theorem exists_parse_iff (text : String) :
    (∃ pattern, parse text = .ok pattern) ↔ IsPatternText text := by
  constructor
  · rintro ⟨pattern, parsed⟩
    have rooted : Path.IsRooted text := by
      by_contra bare
      rw [parse_of_not_rooted bare] at parsed
      cases parsed
    obtain ⟨rest, rfl⟩ := (Path.isRooted_iff text).1 rooted
    exact ⟨rest, rfl, (exists_parse_slash_iff rest).1 ⟨pattern, parsed⟩⟩
  · rintro ⟨rest, rfl, keeps⟩
    exact (exists_parse_slash_iff rest).2 keeps

/-- A text is refused exactly for the reason that the rules give. -/
theorem parse_eq_error_iff (text : String) (error : PatternError) :
    parse text = .error error ↔ Refused text error := by
  constructor
  · intro failed
    by_cases rooted : Path.IsRooted text
    · obtain ⟨rest, rfl⟩ := (Path.isRooted_iff text).1 rooted
      obtain ⟨notEmpty, before, part, after, parts, keeps, breaks⟩ :=
        (parse_slash_eq_error_iff rest error).1 failed
      exact .broken rest before part after error rfl notEmpty parts keeps breaks
    · rw [parse_of_not_rooted rooted] at failed
      cases failed
      exact .bare rooted
  · intro refused
    cases refused with
    | bare bare => exact parse_of_not_rooted bare
    | broken rest before part after error written notEmpty parts keeps breaks =>
      rw [written]
      exact (parse_slash_eq_error_iff rest error).2
        ⟨notEmpty, before, part, after, parts, keeps, breaks⟩

/-- Reading a pattern accepts exactly the texts that keep the rules, and loses nothing: a pattern
is well formed, and its text, which is a slash and its segments with a slash between any two, is
the text that it was read from, so that two texts with the same segments are the same. What is
refused is refused for its leftmost part that breaks a rule. -/
theorem parse_reads_grammar (text : String) :
    ((∃ pattern, parse text = .ok pattern) ↔ IsPatternText text) ∧
      (∀ pattern, parse text = .ok pattern →
        pattern.WellFormed ∧ pattern.text = text ∧
          ∀ other same, parse other = .ok same → same.segments = pattern.segments →
            other = text) ∧
      ∀ error, parse text = .error error ↔ Refused text error := by
  refine ⟨exists_parse_iff text, fun pattern parsed => ?_, parse_eq_error_iff text⟩
  obtain ⟨wellFormed, written⟩ := parse_ok parsed
  refine ⟨wellFormed, written, fun other same parsedOther segments => ?_⟩
  calc other = same.text := (parse_ok parsedOther).2.symm
    _ = pattern.text := by rw [Pattern.text, segments, Pattern.text]
    _ = text := written

theorem parse_reads_grammar_repeated :
    parse "/:id/x/:id" = .error (.repeatedParameter "id") ∧
      Refused "/:id/x/:id" (.repeatedParameter "id") ∧ ¬ IsPatternText "/:id/x/:id" ∧
      IsPatternText "/:id/x/:other" := by
  obtain ⟨accepted, _, refused⟩ := parse_reads_grammar "/:id/x/:id"
  have failed : parse "/:id/x/:id" = .error (.repeatedParameter "id") := rfl
  refine ⟨failed, (refused _).1 failed, fun keeps => ?_, ?_⟩
  · obtain ⟨pattern, parsed⟩ := accepted.2 keeps
    cases failed.symm.trans parsed
  · exact (parse_reads_grammar "/:id/x/:other").1.1 ⟨_, rfl⟩

end Wayfinder.Pattern
