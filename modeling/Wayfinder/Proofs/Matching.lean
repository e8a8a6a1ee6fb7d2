/-
This file proves that matching a path and filling in a pattern are inverse to each other. The
patterns that can be read from a text are well formed: their literals and names are not empty and
contain no slash, and no name occurs twice. A rooted path matches such a pattern with given
parameters exactly when these bind the pattern's names to texts that are segments, and filling
them in gives the path.
-/
import Wayfinder.Pattern
import Wayfinder.Proofs.Path
import Wayfinder.Proofs.TextMap

namespace Wayfinder

/-- The segments that can be read: the literal text or the name is solid, and a literal does not
look like a parameter. -/
def Segment.Valid : Segment → Prop
  | literal text => Path.IsSolid text ∧ text.toList.head? ≠ some ':'
  | parameter name => Path.IsSolid name

/-- What is put in the place of a segment when parameters are filled in. -/
def Segment.fill (parameters : TextMap) : Segment → String
  | literal text => text
  | parameter name => (parameters.get? name).getD ""

namespace Pattern

/-- The parameter names among segments, from left to right. -/
def namesOf (segments : List Segment) : List String :=
  segments.filterMap parameterName?

@[simp]
theorem namesOf_parameter (name : String) (rest : List Segment) :
    namesOf (.parameter name :: rest) = name :: namesOf rest := rfl

theorem mem_namesOf_iff (segments : List Segment) (name : String) :
    name ∈ namesOf segments ↔ Segment.parameter name ∈ segments := by
  rw [namesOf, List.mem_filterMap]
  constructor
  · rintro ⟨segment, member, named⟩
    cases segment with
    | literal text => cases named
    | parameter other =>
      cases named
      exact member
  · exact fun member => ⟨_, member, rfl⟩

/-- The patterns that can be read. -/
structure WellFormed (pattern : Pattern) : Prop where
  valid : ∀ segment ∈ pattern.segments, segment.Valid
  distinct : pattern.parameterNames.Nodup

/-- The path that a pattern becomes when parameters are filled in. -/
def fill (pattern : Pattern) (parameters : TextMap) : String :=
  Path.join (pattern.segments.map (Segment.fill parameters))

/-! ### Reading -/

theorem readSegment_ok {used : List String} {part : String} {segment : Segment}
    (noSlash : '/' ∉ part.toList) (read : readSegment used part = .ok segment) :
    segment.Valid ∧ segment.text = part ∧
      ∀ name, parameterName? segment = some name → name ∉ used := by
  unfold readSegment at read
  split at read
  · cases read
  · cases read
  · next rest notAlone characters =>
    simp only at read
    split at read
    · cases read
    · next fresh =>
      cases read
      have text : part = ":" ++ String.ofList rest := by
        rw [← String.toList_inj, String.toList_append, characters]
        exact congrArg (List.cons ':') String.toList_ofList.symm
      refine ⟨⟨fun empty => ?_, fun slash => ?_⟩, text.symm, ?_⟩
      · rw [String.ofList_eq_empty_iff] at empty
        exact notAlone empty
      · rw [String.toList_ofList] at slash
        exact noSlash (characters ▸ List.mem_cons_of_mem ':' slash)
      · rintro name ⟨⟩
        exact fresh
  · next notEmpty _ notParameter =>
    cases read
    refine ⟨⟨⟨?_, noSlash⟩, fun colon => ?_⟩, rfl, fun name named => nomatch named⟩
    · rintro rfl
      exact notEmpty rfl
    · obtain ⟨rest, characters⟩ := List.head?_eq_some_iff.1 colon
      exact notParameter rest characters

theorem readSegments_ok {used parts : List String} {segments : List Segment}
    (noSlash : ∀ part ∈ parts, '/' ∉ part.toList) (read : readSegments used parts = .ok segments) :
    (∀ segment ∈ segments, segment.Valid) ∧ segments.map Segment.text = parts ∧
      (namesOf segments).Nodup ∧ ∀ name ∈ namesOf segments, name ∉ used := by
  induction parts generalizing used segments with
  | nil =>
    cases read
    exact ⟨fun _ member => absurd member List.not_mem_nil, rfl, List.nodup_nil,
      fun _ member => absurd member List.not_mem_nil⟩
  | cons part rest inductionHypothesis =>
    unfold readSegments at read
    split at read
    · cases read
    · next segment readFirst =>
      split at read
      · cases read
      · next others readOthers =>
        cases read
        obtain ⟨valid, text, fresh⟩ := readSegment_ok (noSlash part List.mem_cons_self) readFirst
        obtain ⟨othersValid, othersText, othersDistinct, othersFresh⟩ := inductionHypothesis
          (fun other member => noSlash other (List.mem_cons_of_mem part member)) readOthers
        refine ⟨List.forall_mem_cons.2 ⟨valid, othersValid⟩, ?_, ?_⟩
        · rw [List.map_cons, text, othersText]
        · cases segment with
          | literal text => exact ⟨othersDistinct, othersFresh⟩
          | parameter name =>
            rw [namesOf_parameter, List.nodup_cons, List.forall_mem_cons]
            have unused : name ∉ namesOf others := fun repeated =>
              othersFresh name repeated List.mem_cons_self
            refine ⟨⟨unused, othersDistinct⟩, fresh name rfl, fun other member inUsed => ?_⟩
            exact othersFresh other member (List.mem_cons_of_mem name inUsed)

/-- A pattern that is read from a text is well formed, and the text is its own. -/
theorem parse_ok {text : String} {pattern : Pattern} (parsed : parse text = .ok pattern) :
    pattern.WellFormed ∧ pattern.text = text := by
  unfold parse at parsed
  split at parsed
  · next rest start =>
    cases read : readSegments [] (Path.split text) with
    | error reason =>
      rw [read] at parsed
      cases parsed
    | ok segments =>
      rw [read] at parsed
      cases parsed
      obtain ⟨valid, texts, distinct, _⟩ :=
        readSegments_ok (Path.split_areSegments text).noSlash read
      refine ⟨⟨valid, distinct⟩, ?_⟩
      rw [Pattern.text, texts, Path.join_split (congrArg List.head? start)]
  · cases parsed

/-! ### Filling in -/

/-- Filling in does not see the parameters that the segments do not name. -/
theorem map_fill_congr {segments : List Segment} {first second : TextMap}
    (same : ∀ name ∈ namesOf segments, first.get? name = second.get? name) :
    segments.map (Segment.fill first) = segments.map (Segment.fill second) := by
  refine List.map_congr_left fun segment member => ?_
  cases segment with
  | literal text => rfl
  | parameter name =>
    rw [Segment.fill, Segment.fill, same name ((mem_namesOf_iff segments name).2 member)]

/-- Capturing from segments that are filled in gives back the parameters that they name. -/
theorem capture_fill (segments : List Segment) (parameters : TextMap)
    (bound : ∀ name ∈ namesOf segments, ∃ value, parameters.get? name = some value ∧ value ≠ "") :
    ∃ captured, capture segments (segments.map (Segment.fill parameters)) = some captured ∧
      ∀ name, captured.get? name =
        if name ∈ namesOf segments then parameters.get? name else none := by
  induction segments with
  | nil => exact ⟨TextMap.empty, rfl, fun name => rfl⟩
  | cons segment rest inductionHypothesis =>
    cases segment with
    | literal text =>
      obtain ⟨captured, capturedRest, lookups⟩ := inductionHypothesis bound
      refine ⟨captured, ?_, lookups⟩
      rw [List.map_cons, Segment.fill, capture, if_pos rfl, capturedRest]
    | parameter name =>
      rw [namesOf_parameter] at bound ⊢
      obtain ⟨value, found, notEmpty⟩ := bound name List.mem_cons_self
      obtain ⟨captured, capturedRest, lookups⟩ := inductionHypothesis fun other member =>
        bound other (List.mem_cons_of_mem name member)
      refine ⟨captured.insert name value, ?_, fun other => ?_⟩
      · rw [List.map_cons, Segment.fill, found, Option.getD_some, capture, if_neg notEmpty,
          capturedRest, Option.map_some]
      · rw [TextMap.get?_insert, lookups]
        by_cases same : other = name
        · rw [if_pos same, if_pos (same ▸ List.mem_cons_self), same, found]
        · simp only [List.mem_cons, same, false_or, if_false]

/-- What is captured binds the names of the segments to parts that are not empty, and gives all
parts back when it is filled in. -/
theorem capture_eq_some {segments : List Segment} {parts : List String} {captured : TextMap}
    (distinct : (namesOf segments).Nodup) (success : capture segments parts = some captured) :
    (∀ name, name ∈ captured.names ↔ name ∈ namesOf segments) ∧
      (∀ name value, captured.get? name = some value → value ∈ parts ∧ value ≠ "") ∧
      parts = segments.map (Segment.fill captured) := by
  induction segments generalizing parts captured with
  | nil =>
    cases parts with
    | cons part rest => cases success
    | nil =>
      cases success
      exact ⟨fun _ => Iff.rfl, fun _ _ found => (nomatch found), rfl⟩
  | cons segment rest inductionHypothesis =>
    cases parts with
    | nil => cases segment <;> cases success
    | cons part others =>
      cases segment with
      | literal text =>
        unfold capture at success
        split at success
        · next same =>
          obtain ⟨names, values, filled⟩ := inductionHypothesis distinct success
          refine ⟨names, fun name value found => ?_, ?_⟩
          · exact (values name value found).imp_left (List.mem_cons_of_mem part)
          · rw [List.map_cons, Segment.fill, same, ← filled]
        · cases success
      | parameter name =>
        obtain ⟨unused, restDistinct⟩ := List.nodup_cons.1 distinct
        unfold capture at success
        split at success
        · cases success
        · next notEmpty =>
          obtain ⟨earlier, capturedRest, rfl⟩ := Option.map_eq_some_iff.1 success
          obtain ⟨names, values, filled⟩ := inductionHypothesis restDistinct capturedRest
          refine ⟨fun other => ?_, fun other value found => ?_, ?_⟩
          · rw [TextMap.mem_names_iff, namesOf_parameter, List.mem_cons, ← names,
              TextMap.mem_names_iff, TextMap.get?_insert]
            by_cases same : other = name <;> simp [same]
          · rw [TextMap.get?_insert] at found
            split at found
            · cases found
              exact ⟨List.mem_cons_self, notEmpty⟩
            · exact (values other value found).imp_left (List.mem_cons_of_mem part)
          · rw [List.map_cons, Segment.fill, TextMap.get?_insert, if_pos rfl, Option.getD_some]
            refine congrArg (List.cons part) (filled.trans (map_fill_congr fun other member => ?_))
            rw [TextMap.get?_insert, if_neg fun same : other = name => unused (same ▸ member)]

/-! ### Matching a rooted path -/

/-- The parameters that may be filled in: they bind the names of the pattern and no others, to
solid texts. -/
structure Admits (pattern : Pattern) (parameters : TextMap) : Prop where
  names : ∀ name, name ∈ parameters.names ↔ name ∈ pattern.parameterNames
  values : ∀ name value, parameters.get? name = some value → Path.IsSolid value

/-- The parameters that a pattern with a single name admits. -/
theorem admits_iff_of_single {pattern : Pattern} {name : String}
    (single : pattern.parameterNames = [name]) (parameters : TextMap) :
    pattern.Admits parameters ↔
      ∃ value, Path.IsSolid value ∧ parameters = TextMap.ofList [(name, value)] := by
  constructor
  · intro admits
    have named : name ∈ parameters.names := (admits.names name).2 (by simp [single])
    obtain ⟨value, found⟩ := (TextMap.mem_names_iff parameters name).1 named
    refine ⟨value, admits.values name value found, TextMap.ext_get? fun other => ?_⟩
    rw [TextMap.get?_ofList_singleton]
    split
    · next same => rw [same, found]
    · next different =>
      rw [TextMap.get?_eq_none_iff, admits.names, single]
      exact mt List.mem_singleton.1 different
  · rintro ⟨value, solid, rfl⟩
    refine ⟨fun other => ?_, fun other text found => ?_⟩
    · rw [TextMap.mem_names_iff, single, List.mem_singleton, TextMap.get?_ofList_singleton]
      by_cases same : other = name <;> simp [same]
    · rw [TextMap.get?_ofList_singleton] at found
      split at found
      · cases found
        exact solid
      · cases found

/-- Filling in admitted parameters puts a solid text in every place. -/
theorem fill_isSolid {pattern : Pattern} (wellFormed : pattern.WellFormed) {parameters : TextMap}
    (admitted : pattern.Admits parameters) {segment : Segment}
    (member : segment ∈ pattern.segments) : Path.IsSolid (segment.fill parameters) := by
  cases segment with
  | literal text => exact (wellFormed.valid _ member).1
  | parameter name =>
    obtain ⟨value, found⟩ := (TextMap.mem_names_iff parameters name).1
      ((admitted.names name).2 ((mem_namesOf_iff pattern.segments name).2 member))
    rw [Segment.fill, found]
    exact admitted.values name value found

/-- A rooted path matches with given parameters exactly when they are admitted and fill the
pattern in to the path. -/
theorem match?_eq_some_iff {pattern : Pattern} (wellFormed : pattern.WellFormed) {path : String}
    (rooted : Path.IsRooted path) (parameters : TextMap) :
    pattern.match? path = some parameters ↔
      pattern.Admits parameters ∧ path = pattern.fill parameters := by
  constructor
  · intro matched
    obtain ⟨names, values, filled⟩ := capture_eq_some wellFormed.distinct matched
    refine ⟨⟨names, fun name value found => ?_⟩, ?_⟩
    · obtain ⟨member, notEmpty⟩ := values name value found
      exact ⟨notEmpty, (Path.split_areSegments path).noSlash value member⟩
    · exact ((Path.split_eq_iff rooted _).1 filled).2
  · rintro ⟨admitted, rfl⟩
    have parts : Path.AreSegments (pattern.segments.map (Segment.fill parameters)) :=
      Path.areSegments_of_isSolid (List.forall_mem_map.2 fun _ member =>
        fill_isSolid wellFormed admitted member)
    obtain ⟨captured, success, lookups⟩ := capture_fill pattern.segments parameters
      fun name member => by
        obtain ⟨value, found⟩ := (TextMap.mem_names_iff parameters name).1
          ((admitted.names name).2 member)
        exact ⟨value, found, (admitted.values name value found).notEmpty⟩
    rw [match?, fill, Path.split_join parts, success]
    refine congrArg some (TextMap.ext_get? fun name => ?_)
    rw [lookups]
    split
    · rfl
    · next notNamed =>
      exact ((TextMap.get?_eq_none_iff parameters name).2
        (mt (admitted.names name).1 notNamed)).symm

/-- Matching is inverse to filling in. On the rooted paths a pattern captures exactly the
admitted parameters that fill it in to the path, and a path that is not rooted matches as the
path with a slash in front. -/
theorem match?_inverse_of_fill {text : String} {pattern : Pattern}
    (parsed : parse text = .ok pattern) (path : String) :
    (Path.IsRooted path → ∀ parameters : TextMap, pattern.match? path = some parameters ↔
        pattern.Admits parameters ∧ path = pattern.fill parameters) ∧
      (¬ Path.IsRooted path → pattern.match? path = pattern.match? ("/" ++ path)) := by
  refine ⟨fun rooted parameters => ?_, fun bare => ?_⟩
  · exact match?_eq_some_iff (parse_ok parsed).1 rooted parameters
  · rw [match?, match?, Path.split_slash_append bare]

theorem match?_inverse_of_fill_withdraw :
    let pattern : Pattern :=
      ⟨[.parameter "accountId", .literal "withdraw", .parameter "paymentMethodId"]⟩
    let parameters := TextMap.ofList [("accountId", "acct-1"), ("paymentMethodId", "card-9")]
    parse "/:accountId/withdraw/:paymentMethodId" = .ok pattern ∧
      Path.IsRooted "/acct-1/withdraw/card-9" ∧
      pattern.match? "/acct-1/withdraw/card-9" = some parameters ∧
      pattern.Admits parameters ∧ "/acct-1/withdraw/card-9" = pattern.fill parameters ∧
      ¬ Path.IsRooted "acct-1/withdraw/card-9" ∧
      pattern.match? "acct-1/withdraw/card-9" =
        pattern.match? ("/" ++ "acct-1/withdraw/card-9") := by
  intro pattern parameters
  have parsed : parse "/:accountId/withdraw/:paymentMethodId" = .ok pattern := rfl
  have rooted : Path.IsRooted "/acct-1/withdraw/card-9" := by decide
  have bare : ¬ Path.IsRooted "acct-1/withdraw/card-9" := by decide
  have matched : pattern.match? "/acct-1/withdraw/card-9" = some parameters := rfl
  obtain ⟨admitted, filled⟩ :=
    ((match?_inverse_of_fill parsed "/acct-1/withdraw/card-9").1 rooted parameters).1 matched
  exact ⟨parsed, rooted, matched, admitted, filled, bare,
    (match?_inverse_of_fill parsed "acct-1/withdraw/card-9").2 bare⟩

end Pattern

end Wayfinder
