/-
This file proves that overlapping is about paths: two patterns overlap exactly when some path
matches both. The test compares two patterns segment by segment, and no part of a path is taken
by two different literals. Two patterns that overlap have a meet, which has the literals of both,
and which both cover, so that a path of the meet is common to them. Overlapping goes both ways,
and a pattern overlaps every pattern that it covers, itself among them.
-/
import Wayfinder.Proofs.Covering

namespace Wayfinder

/-- The segment of the two that takes less: the literal, if one of them is a literal. -/
def Segment.meet : Segment → Segment → Segment
  | literal text, _ => literal text
  | parameter _, second => second

namespace Pattern

/-! ### A common path -/

theorem segmentOverlaps_of_takes {first second : Segment} {part : String}
    (byFirst : first.Takes part) (bySecond : second.Takes part) :
    segmentOverlaps first second = true := by
  cases first with
  | parameter name => rfl
  | literal text =>
    cases second with
    | parameter name => rfl
    | literal other => exact beq_iff_eq.2 (byFirst.symm.trans bySecond)

theorem forall₂_overlaps_of_takes {firsts seconds : List Segment} {parts : List String}
    (byFirsts : List.Forall₂ Segment.Takes firsts parts)
    (bySeconds : List.Forall₂ Segment.Takes seconds parts) :
    List.Forall₂ (fun first second => segmentOverlaps first second = true) firsts seconds := by
  induction byFirsts generalizing seconds with
  | nil =>
    cases bySeconds
    exact List.Forall₂.nil
  | cons byFirst _ inductionHypothesis =>
    cases bySeconds with
    | cons bySecond restBySeconds =>
      exact List.Forall₂.cons (segmentOverlaps_of_takes byFirst bySecond)
        (inductionHypothesis restBySeconds)

/-- Two patterns that match the same path overlap. -/
theorem overlaps_of_match? {first second : Pattern} {path : String}
    (byFirst : (first.match? path).isSome = true)
    (bySecond : (second.match? path).isSome = true) : first.overlaps second = true := by
  rw [match?_isSome_iff] at byFirst bySecond
  exact (pairwiseAll_iff _ _ _).2 (forall₂_overlaps_of_takes byFirst bySecond)

/-! ### Overlapping and covering -/

theorem segmentOverlaps_comm (first second : Segment) :
    segmentOverlaps first second = segmentOverlaps second first := by
  cases first <;> cases second <;> first | rfl | exact Bool.beq_comm

theorem overlaps_symm {first second : Pattern} (overlaps : first.overlaps second = true) :
    second.overlaps first = true := by
  have pairs := (pairwiseAll_iff _ _ _).1 overlaps
  refine (pairwiseAll_iff _ _ _).2 (List.Forall₂.flip (pairs.imp fun one other both => ?_))
  show segmentOverlaps other one = true
  rw [segmentOverlaps_comm, both]

theorem covers_refl (pattern : Pattern) : pattern.covers pattern = true := by
  refine (pairwiseAll_iff _ _ _).2 (List.forall₂_same.2 fun segment _ => ?_)
  cases segment with
  | literal text => exact beq_self_eq_true text
  | parameter name => rfl

theorem segmentOverlaps_of_segmentCovers {general special : Segment}
    (covers : segmentCovers general special = true) : segmentOverlaps general special = true := by
  cases general with
  | parameter name => rfl
  | literal text =>
    cases special with
    | literal other => exact covers
    | parameter name => rfl

theorem overlaps_of_covers {general special : Pattern} (covers : general.covers special = true) :
    general.overlaps special = true := by
  have covered := (pairwiseAll_iff _ _ _).1 covers
  exact (pairwiseAll_iff _ _ _).2 (covered.imp fun _ _ => segmentOverlaps_of_segmentCovers)

/-! ### The meet of two patterns -/

/-- The pattern with the meets of the segments in the same places. -/
def meet (first second : Pattern) : Pattern where
  segments := List.zipWith Segment.meet first.segments second.segments

theorem segmentCovers_meet_left (first second : Segment) :
    segmentCovers first (first.meet second) = true := by
  cases first with
  | literal text => exact beq_self_eq_true text
  | parameter name => rfl

theorem segmentCovers_meet_right {first second : Segment}
    (overlaps : segmentOverlaps first second = true) :
    segmentCovers second (first.meet second) = true := by
  cases second with
  | parameter name => rfl
  | literal other =>
    cases first with
    | literal text => exact Bool.beq_comm.trans overlaps
    | parameter name => exact beq_self_eq_true other

theorem forall₂_covers_meet {firsts seconds : List Segment}
    (overlaps : List.Forall₂ (fun first second => segmentOverlaps first second = true)
      firsts seconds) :
    List.Forall₂ (fun general special => segmentCovers general special = true) firsts
        (List.zipWith Segment.meet firsts seconds) ∧
      List.Forall₂ (fun general special => segmentCovers general special = true) seconds
        (List.zipWith Segment.meet firsts seconds) := by
  induction overlaps with
  | nil => exact ⟨List.Forall₂.nil, List.Forall₂.nil⟩
  | cons both _ inductionHypothesis =>
    exact ⟨List.Forall₂.cons (segmentCovers_meet_left _ _) inductionHypothesis.1,
      List.Forall₂.cons (segmentCovers_meet_right both) inductionHypothesis.2⟩

/-- Two patterns that overlap both cover their meet. -/
theorem covers_meet {first second : Pattern} (overlaps : first.overlaps second = true) :
    first.covers (first.meet second) = true ∧ second.covers (first.meet second) = true := by
  obtain ⟨byFirst, bySecond⟩ := forall₂_covers_meet ((pairwiseAll_iff _ _ _).1 overlaps)
  exact ⟨(pairwiseAll_iff _ _ _).2 byFirst, (pairwiseAll_iff _ _ _).2 bySecond⟩

theorem mem_segments_of_mem_meet {first second : Pattern} {segment : Segment}
    (member : segment ∈ (first.meet second).segments) :
    segment ∈ first.segments ∨ segment ∈ second.segments := by
  rw [meet, ← List.map_uncurry_zip_eq_zipWith] at member
  obtain ⟨⟨one, other⟩, pair, rfl⟩ := List.mem_map.1 member
  obtain ⟨oneMember, otherMember⟩ := List.of_mem_zip pair
  cases one with
  | literal text => exact Or.inl oneMember
  | parameter name => exact Or.inr otherMember

/-- The parameters that are left in a meet are parameters of the second pattern. -/
theorem namesOf_meet_sublist (firsts seconds : List Segment) :
    (namesOf (List.zipWith Segment.meet firsts seconds)).Sublist (namesOf seconds) := by
  induction firsts generalizing seconds with
  | nil => exact List.nil_sublist _
  | cons first rest inductionHypothesis =>
    cases seconds with
    | nil => exact List.nil_sublist _
    | cons second others =>
      cases first with
      | literal text =>
        exact (inductionHypothesis others).trans ((List.sublist_cons_self second others).filterMap _)
      | parameter name =>
        cases second with
        | literal other => exact inductionHypothesis others
        | parameter other => exact (inductionHypothesis others).cons_cons other

theorem meet_wellFormed {first second : Pattern} (firstWellFormed : first.WellFormed)
    (secondWellFormed : second.WellFormed) : (first.meet second).WellFormed where
  valid segment member := by
    rcases mem_segments_of_mem_meet member with inFirst | inSecond
    · exact firstWellFormed.valid segment inFirst
    · exact secondWellFormed.valid segment inSecond
  distinct := secondWellFormed.distinct.sublist (namesOf_meet_sublist _ _)

/-- Two patterns that are read from texts overlap exactly when some path matches both. -/
theorem overlaps_iff_exists_match? {firstText secondText : String} {first second : Pattern}
    (parsedFirst : parse firstText = .ok first) (parsedSecond : parse secondText = .ok second) :
    first.overlaps second = true ↔
      ∃ path, (first.match? path).isSome = true ∧ (second.match? path).isSome = true := by
  have wellFormed : (first.meet second).WellFormed :=
    meet_wellFormed (parse_ok parsedFirst).1 (parse_ok parsedSecond).1
  constructor
  · intro overlaps
    obtain ⟨byFirst, bySecond⟩ := covers_meet overlaps
    have matched := match?_specimen wellFormed (freshPart_isSolid [])
    exact ⟨_, match?_isSome_of_covers wellFormed byFirst matched,
      match?_isSome_of_covers wellFormed bySecond matched⟩
  · rintro ⟨path, byFirst, bySecond⟩
    exact overlaps_of_match? byFirst bySecond

theorem overlaps_iff_exists_match?_withdraw :
    let details : Pattern :=
      ⟨[.literal "transaction-history", .parameter "transactionId", .literal "details"]⟩
    let withdraw : Pattern :=
      ⟨[.parameter "accountId", .literal "withdraw", .parameter "paymentMethodId"]⟩
    parse "/transaction-history/:transactionId/details" = .ok details ∧
      parse "/:accountId/withdraw/:paymentMethodId" = .ok withdraw ∧
      details.overlaps withdraw = true ∧
      ∃ path, (details.match? path).isSome = true ∧ (withdraw.match? path).isSome = true := by
  intro details withdraw
  have parsedDetails : parse "/transaction-history/:transactionId/details" = .ok details := rfl
  have parsedWithdraw : parse "/:accountId/withdraw/:paymentMethodId" = .ok withdraw := rfl
  have overlaps : details.overlaps withdraw = true := rfl
  exact ⟨parsedDetails, parsedWithdraw, overlaps,
    (overlaps_iff_exists_match? parsedDetails parsedWithdraw).1 overlaps⟩

end Pattern

end Wayfinder
