/-
This file proves that covering is about paths: a pattern covers another one exactly when it
matches every path that the other one matches, and a pattern that none of finitely many patterns
covers matches a path that none of them matches. The second fact is stronger than comparing
patterns pair by pair, since many patterns together could match more than each of them does. They
never do, because a path may take a part for its parameters that none of them repeats literally.
-/
import Mathlib.Algebra.Order.Group.Nat
import Mathlib.Data.List.Forall2
import Wayfinder.Proofs.Matching

namespace Wayfinder

/-- The parts of a path that a segment takes. -/
def Segment.Takes : Segment → String → Prop
  | literal text, part => part = text
  | parameter _, part => part ≠ ""

/-- A segment with a part in the place of a parameter. -/
def Segment.instantiate (part : String) : Segment → String
  | literal text => text
  | parameter _ => part

namespace Pattern

/-! ### Matching, segment by segment -/

theorem capture_isSome_iff (segments : List Segment) (parts : List String) :
    (capture segments parts).isSome = true ↔ List.Forall₂ Segment.Takes segments parts := by
  induction segments generalizing parts with
  | nil => cases parts <;> simp [capture]
  | cons segment rest inductionHypothesis =>
    cases parts with
    | nil => cases segment <;> simp [capture]
    | cons part others =>
      rw [List.forall₂_cons, ← inductionHypothesis]
      cases segment with
      | literal text =>
        rw [capture, Segment.Takes, eq_comm (a := part)]
        by_cases same : text = part <;> simp [same]
      | parameter name =>
        rw [capture, Segment.Takes]
        by_cases blank : part = "" <;> simp [blank]

/-- A path matches when every segment takes its part. -/
theorem match?_isSome_iff (pattern : Pattern) (path : String) :
    (pattern.match? path).isSome = true ↔
      List.Forall₂ Segment.Takes pattern.segments (Path.split path) :=
  capture_isSome_iff pattern.segments (Path.split path)

theorem pairwiseAll_iff (relation : Segment → Segment → Bool) (firsts seconds : List Segment) :
    pairwiseAll relation firsts seconds = true ↔
      List.Forall₂ (fun first second => relation first second = true) firsts seconds := by
  induction firsts generalizing seconds with
  | nil => cases seconds <;> simp [pairwiseAll]
  | cons first rest inductionHypothesis =>
    cases seconds with
    | nil => simp [pairwiseAll]
    | cons second others =>
      rw [pairwiseAll, Bool.and_eq_true, inductionHypothesis, List.forall₂_cons]

/-! ### What is covered is matched -/

/-- A segment takes every part of a segment that it covers. -/
theorem takes_of_segmentCovers {general special : Segment} (valid : special.Valid)
    (covers : segmentCovers general special = true) {part : String} (taken : special.Takes part) :
    general.Takes part := by
  cases general with
  | literal text =>
    cases special with
    | literal other => exact taken.trans (beq_iff_eq.1 covers).symm
    | parameter name => cases covers
  | parameter name =>
    cases special with
    | literal other => exact fun blank => valid.1.notEmpty (taken.symm.trans blank)
    | parameter other => exact taken

theorem forall₂_takes_of_covers {generals specials : List Segment} {parts : List String}
    (covered : List.Forall₂ (fun general special => segmentCovers general special = true)
      generals specials)
    (valid : ∀ segment ∈ specials, segment.Valid)
    (taken : List.Forall₂ Segment.Takes specials parts) :
    List.Forall₂ Segment.Takes generals parts := by
  induction covered generalizing parts with
  | nil => exact taken
  | cons first _ inductionHypothesis =>
    cases taken with
    | cons takenFirst takenRest =>
      obtain ⟨validFirst, validRest⟩ := List.forall_mem_cons.1 valid
      exact List.Forall₂.cons (takes_of_segmentCovers validFirst first takenFirst)
        (inductionHypothesis validRest takenRest)

/-- A pattern matches every path of a pattern that it covers. -/
theorem match?_isSome_of_covers {general special : Pattern} (wellFormed : special.WellFormed)
    (covers : general.covers special = true) {path : String}
    (matched : (special.match? path).isSome = true) : (general.match? path).isSome = true := by
  rw [match?_isSome_iff] at matched ⊢
  exact forall₂_takes_of_covers ((pairwiseAll_iff _ _ _).1 covers) wellFormed.valid matched

/-! ### A part that no literal repeats -/

/-- The texts that segments repeat literally. -/
def literals (segments : List Segment) : List String :=
  segments.filterMap fun
    | .literal text => some text
    | .parameter _ => none

theorem mem_literals_iff (segments : List Segment) (text : String) :
    text ∈ literals segments ↔ Segment.literal text ∈ segments := by
  rw [literals, List.mem_filterMap]
  constructor
  · rintro ⟨segment, member, literal⟩
    cases segment with
    | literal other =>
      cases literal
      exact member
    | parameter name => cases literal
  · exact fun member => ⟨_, member, rfl⟩

/-- A part that is longer than each of some texts. -/
def freshPart (texts : List String) : String :=
  String.ofList (List.replicate ((texts.map String.toList).flatten.length + 1) 'x')

theorem freshPart_not_mem (texts : List String) : freshPart texts ∉ texts := by
  intro member
  have bound : (freshPart texts).toList.length ≤ (texts.map String.toList).flatten.length :=
    (List.sublist_flatten_of_mem (List.mem_map_of_mem member)).length_le
  rw [freshPart, String.toList_ofList, List.length_replicate] at bound
  exact Nat.not_succ_le_self _ bound

theorem freshPart_isSolid (texts : List String) : Path.IsSolid (freshPart texts) := by
  refine ⟨fun empty => ?_, fun slash => ?_⟩
  · exact List.cons_ne_nil 'x' _ (String.ofList_eq_empty_iff.1 empty)
  · rw [freshPart, String.toList_ofList, List.mem_replicate] at slash
    exact absurd slash.2 (by decide)

/-! ### The path with a fresh part for every parameter -/

/-- The path of a pattern with the same part in the place of every parameter. -/
def specimen (pattern : Pattern) (part : String) : String :=
  Path.join (pattern.segments.map (Segment.instantiate part))

theorem split_specimen {pattern : Pattern} (wellFormed : pattern.WellFormed) {part : String}
    (solid : Path.IsSolid part) :
    Path.split (pattern.specimen part) = pattern.segments.map (Segment.instantiate part) := by
  refine Path.split_join (Path.areSegments_of_isSolid (List.forall_mem_map.2 ?_))
  intro segment member
  cases segment with
  | literal text => exact (wellFormed.valid _ member).1
  | parameter name => exact solid

theorem match?_specimen {pattern : Pattern} (wellFormed : pattern.WellFormed) {part : String}
    (solid : Path.IsSolid part) : (pattern.match? (pattern.specimen part)).isSome = true := by
  rw [match?_isSome_iff, split_specimen wellFormed solid, List.forall₂_map_right_iff,
    List.forall₂_same]
  intro segment _
  cases segment with
  | literal text => exact rfl
  | parameter name => exact solid.notEmpty

/-- A segment that takes what another one becomes covers it, unless it repeats the part. -/
theorem segmentCovers_of_takes {general special : Segment} {part : String}
    (fresh : general ≠ .literal part) (taken : general.Takes (special.instantiate part)) :
    segmentCovers general special = true := by
  cases general with
  | parameter name => rfl
  | literal text =>
    cases special with
    | literal other => exact beq_iff_eq.2 taken.symm
    | parameter name => exact absurd (congrArg Segment.literal taken.symm) fresh

/-- A pattern that matches the path of another one covers it, unless it repeats the part. -/
theorem covers_of_match?_specimen {general special : Pattern} (wellFormed : special.WellFormed)
    {part : String} (solid : Path.IsSolid part) (fresh : part ∉ literals general.segments)
    (matched : (general.match? (special.specimen part)).isSome = true) :
    general.covers special = true := by
  rw [match?_isSome_iff, split_specimen wellFormed solid, List.forall₂_map_right_iff] at matched
  have different : ∀ segment ∈ general.segments, segment ≠ .literal part := by
    rintro segment member rfl
    exact fresh ((mem_literals_iff general.segments part).2 member)
  refine (pairwiseAll_iff _ _ _).2 (((List.forall₂_and_left _ _).2 ⟨different, matched⟩).imp ?_)
  exact fun _ _ both => segmentCovers_of_takes both.1 both.2

/-- Patterns none of which covers another one leave it a path that none of them matches. -/
theorem exists_path_of_uncovered {pattern : Pattern} (wellFormed : pattern.WellFormed)
    (others : List Pattern) (uncovered : ∀ other ∈ others, other.covers pattern = false) :
    ∃ path, (pattern.match? path).isSome = true ∧ ∀ other ∈ others, other.match? path = none := by
  let texts := others.flatMap fun other => literals other.segments
  refine ⟨pattern.specimen (freshPart texts),
    match?_specimen wellFormed (freshPart_isSolid texts), fun other member => ?_⟩
  have fresh : freshPart texts ∉ literals other.segments := fun inside =>
    freshPart_not_mem texts (List.mem_flatMap.2 ⟨other, member, inside⟩)
  refine Option.not_isSome_iff_eq_none.1 fun matched => ?_
  have covers := covers_of_match?_specimen wellFormed (freshPart_isSolid texts) fresh matched
  exact Bool.false_ne_true ((uncovered other member).symm.trans covers)

/-! ### Covering and paths -/

/-- A pattern covers one that is read from a text exactly when it matches every path that the
other one matches. -/
theorem covers_iff_forall_match? {text : String} {special : Pattern}
    (parsed : parse text = .ok special) (general : Pattern) :
    general.covers special = true ↔
      ∀ path, (special.match? path).isSome = true → (general.match? path).isSome = true := by
  have wellFormed : special.WellFormed := (parse_ok parsed).1
  constructor
  · intro covers path matched
    exact match?_isSome_of_covers wellFormed covers matched
  · intro includes
    -- One path refutes every way not to cover: it has a part that the general pattern lacks in
    -- the place of each parameter.
    have solid : Path.IsSolid (freshPart (literals general.segments)) := freshPart_isSolid _
    refine covers_of_match?_specimen wellFormed solid (freshPart_not_mem _) ?_
    exact includes _ (match?_specimen wellFormed solid)

theorem covers_iff_forall_match?_portfolio :
    let general : Pattern := ⟨[.parameter "accountId", .literal "portfolio"]⟩
    let special : Pattern := ⟨[.literal "market", .literal "portfolio"]⟩
    parse "/:accountId/portfolio" = .ok general ∧ parse "/market/portfolio" = .ok special ∧
      general.covers special = true ∧
      (∀ path, (special.match? path).isSome = true → (general.match? path).isSome = true) ∧
      ¬ ∀ path, (general.match? path).isSome = true → (special.match? path).isSome = true := by
  intro general special
  have parsedGeneral : parse "/:accountId/portfolio" = .ok general := rfl
  have parsedSpecial : parse "/market/portfolio" = .ok special := rfl
  have covers : general.covers special = true := rfl
  have uncovered : special.covers general ≠ true := by decide
  exact ⟨parsedGeneral, parsedSpecial, covers,
    (covers_iff_forall_match? parsedSpecial general).1 covers,
    mt (covers_iff_forall_match? parsedGeneral special).2 uncovered⟩

end Pattern

end Wayfinder
