/-
This file proves that only the relative order of overlapping routes matters. Two lists of
declarations that differ by a bijection of their positions, under which overlapping declarations
keep their order, make tables that lead every path to the same route, or neither of them makes a
table. A path is led by the first route that matches it, and all routes that match it overlap;
covering, which decides whether a route is rejected, is a special case of overlapping.
-/
import Mathlib.Data.List.Pairwise
import Mathlib.Logic.Equiv.Fin.Rotate
import Wayfinder.Proofs.Declaring
import Wayfinder.Proofs.Overlapping

namespace Wayfinder

/-! ### The first hit of a list -/

section FirstHit

variable {Element Result : Type} [DecidableEq Element] {hit : Element → Option Result}

/-- No element occurs for the first time after a position at which it stands. -/
theorem idxOf_get_le (elements : List Element) (index : Fin elements.length) :
    elements.idxOf (elements.get index) ≤ index := by
  refine Nat.le_of_not_lt fun later => ?_
  have different : (elements.get index == elements.get index) = false :=
    List.not_of_lt_findIdx later
  rw [beq_self_eq_true] at different
  cases different

/-- The first hit of a list comes before every other hit. -/
theorem exists_first_hit {elements : List Element} {result : Result}
    (found : elements.findSome? hit = some result) :
    ∃ first ∈ elements, hit first = some result ∧
      ∀ other, (hit other).isSome = true → elements.idxOf first ≤ elements.idxOf other := by
  obtain ⟨before, first, after, rfl, hits, misses⟩ := List.findSome?_eq_some_iff.1 found
  have notBefore : ∀ other, (hit other).isSome = true → other ∉ before := by
    intro other otherHits member
    rw [misses other member] at otherHits
    cases otherHits
  refine ⟨first, List.mem_append_right before List.mem_cons_self, hits, fun other otherHits => ?_⟩
  have firstHits : (hit first).isSome = true := Option.isSome_iff_exists.2 ⟨result, hits⟩
  rw [List.idxOf_append_of_notMem (notBefore first firstHits), List.idxOf_cons_self,
    List.idxOf_append_of_notMem (notBefore other otherHits)]
  exact Nat.add_le_add_left (Nat.zero_le _) _

/-- Lists with the same members have the same first hit, if of any two hits the same one comes
first in both. -/
theorem findSome?_eq_of_order {firsts seconds : List Element}
    (members : ∀ element, element ∈ firsts ↔ element ∈ seconds)
    (order : ∀ one ∈ firsts, ∀ other ∈ firsts, (hit one).isSome = true →
      (hit other).isSome = true → firsts.idxOf one < firsts.idxOf other →
        seconds.idxOf one ≤ seconds.idxOf other) :
    firsts.findSome? hit = seconds.findSome? hit := by
  cases found : firsts.findSome? hit with
  | none =>
    rw [List.findSome?_eq_none_iff] at found
    exact (List.findSome?_eq_none_iff.2 fun element member =>
      found element ((members element).2 member)).symm
  | some result =>
    obtain ⟨one, oneMember, oneHits, oneFirst⟩ := exists_first_hit found
    have oneSome : (hit one).isSome = true := Option.isSome_iff_exists.2 ⟨result, oneHits⟩
    obtain ⟨otherResult, otherFound⟩ := Option.isSome_iff_exists.1
      (List.findSome?_isSome_iff.2 ⟨one, (members one).1 oneMember, oneSome⟩)
    obtain ⟨other, otherMember, otherHits, otherFirst⟩ := exists_first_hit otherFound
    have otherSome : (hit other).isSome = true :=
      Option.isSome_iff_exists.2 ⟨otherResult, otherHits⟩
    have same : one = other := by
      by_contra different
      have before : firsts.idxOf one < firsts.idxOf other :=
        lt_of_le_of_ne (oneFirst other otherSome) (mt (List.idxOf_inj oneMember).1 different)
      have notAfter := order one oneMember other ((members other).2 otherMember) oneSome otherSome
        before
      exact different ((List.idxOf_inj ((members one).1 oneMember)).1
        (le_antisymm notAfter (otherFirst one oneSome)))
    rw [otherFound, ← otherHits, ← same, oneHits]

end FirstHit

/-! ### Overlapping declarations -/

namespace Declaration

/-- Where a declaration leads a path, if its pattern can be read and matches. -/
def lead? (declaration : Declaration) (path : String) : Option RouteMatch :=
  declaration.route?.bind fun route => (route.pattern.match? path).map (RouteMatch.mk route)

theorem overlaps_symm {first second : Declaration} (overlaps : first.Overlaps second) :
    second.Overlaps first := by
  obtain ⟨firstPattern, secondPattern, parsedFirst, parsedSecond, both⟩ := overlaps
  exact ⟨secondPattern, firstPattern, parsedSecond, parsedFirst, Pattern.overlaps_symm both⟩

theorem overlaps_of_covers {general special : Declaration} (covers : general.Covers special) :
    general.Overlaps special := by
  obtain ⟨generalPattern, specialPattern, parsedGeneral, parsedSpecial, covered⟩ := covers
  exact ⟨generalPattern, specialPattern, parsedGeneral, parsedSpecial,
    Pattern.overlaps_of_covers covered⟩

theorem lead?_isSome_iff (declaration : Declaration) (path : String) :
    (declaration.lead? path).isSome = true ↔
      ∃ route, declaration.route? = some route ∧ (route.pattern.match? path).isSome = true := by
  cases read : declaration.route? <;> simp [lead?, read]

theorem lead?_eq_some_iff (declaration : Declaration) (path : String)
    (found : RouteMatch) :
    declaration.lead? path = some found ↔ declaration.route? = some found.route ∧
      found.route.pattern.match? path = some found.parameters := by
  rw [lead?, Option.bind_eq_some_iff]
  constructor
  · rintro ⟨route, read, captured⟩
    obtain ⟨parameters, matched, rfl⟩ := Option.map_eq_some_iff.1 captured
    exact ⟨read, matched⟩
  · rintro ⟨read, matched⟩
    exact ⟨found.route, read, by rw [matched]; rfl⟩

/-- Two declarations that lead the same path overlap. -/
theorem overlaps_of_lead? {first second : Declaration} {path : String}
    (byFirst : (first.lead? path).isSome = true) (bySecond : (second.lead? path).isSome = true) :
    first.Overlaps second := by
  obtain ⟨firstRoute, readFirst, matchedFirst⟩ := (lead?_isSome_iff first path).1 byFirst
  obtain ⟨secondRoute, readSecond, matchedSecond⟩ := (lead?_isSome_iff second path).1 bySecond
  exact (related_iff (parse_of_route? readFirst) (parse_of_route? readSecond) _).2
    (Pattern.overlaps_of_match? matchedFirst matchedSecond)

end Declaration

namespace RouteTable

/-- The table of a list of declarations leads a path where the first of them does that leads
it. -/
theorem resolve_routesOf (shadowing : Shadowing) (declarations : List Declaration)
    (path : String) :
    resolve ⟨shadowing, routesOf declarations⟩ path = declarations.findSome? (·.lead? path) := by
  rw [resolve, routesOf, ← List.head?_filterMap, List.filterMap_filterMap, List.head?_filterMap]
  rfl

/-- Two lists of declarations can take each other's place when both make a table or neither does,
and their tables lead every path to the same place. -/
structure Interchangeable (shadowing : Shadowing) (firsts seconds : List Declaration) : Prop where
  accepted : (∃ table, ofDeclarations shadowing firsts = .ok table) ↔
    ∃ table, ofDeclarations shadowing seconds = .ok table
  alike : ∀ firstTable secondTable, ofDeclarations shadowing firsts = .ok firstTable →
    ofDeclarations shadowing seconds = .ok secondTable →
      ∀ path, firstTable.resolve path = secondTable.resolve path

theorem exists_ofDeclarations_iff (shadowing : Shadowing) (declarations : List Declaration) :
    (∃ table, ofDeclarations shadowing declarations = .ok table) ↔
      (∀ declaration ∈ declarations, declaration.route?.isSome = true) ∧
        (shadowing = .reject → Uncovered (routesOf declarations)) := by
  simp only [ofDeclarations_eq_ok_iff, exists_and_left, exists_eq, and_true]

/-- Lists with the same members are interchangeable, if they agree on whether a route is covered
by an earlier one, and on which of two overlapping declarations comes first. -/
theorem interchangeable_of_order {firsts seconds : List Declaration}
    (members : ∀ declaration, declaration ∈ firsts ↔ declaration ∈ seconds)
    (uncovered : Uncovered (routesOf firsts) ↔ Uncovered (routesOf seconds))
    (order : ∀ one ∈ firsts, ∀ other ∈ firsts, one.Overlaps other →
      firsts.idxOf one < firsts.idxOf other → seconds.idxOf one ≤ seconds.idxOf other)
    (shadowing : Shadowing) : Interchangeable shadowing firsts seconds where
  accepted := by
    rw [exists_ofDeclarations_iff, exists_ofDeclarations_iff, uncovered]
    simp only [members]
  alike := by
    intro firstTable secondTable firstMade secondMade path
    obtain ⟨_, _, rfl⟩ := (ofDeclarations_eq_ok_iff _ _ _).1 firstMade
    obtain ⟨_, _, rfl⟩ := (ofDeclarations_eq_ok_iff _ _ _).1 secondMade
    rw [resolve_routesOf, resolve_routesOf]
    refine findSome?_eq_of_order members fun one oneMember other otherMember byOne byOther => ?_
    exact order one oneMember other otherMember (Declaration.overlaps_of_lead? byOne byOther)

/-! ### Bijections of positions -/

/-- A bijection of positions carries every declaration of a list to the same one of another list,
and it keeps the order of any two that overlap. -/
structure Reorders (firsts seconds : List Declaration)
    (place : Fin firsts.length ≃ Fin seconds.length) : Prop where
  same : ∀ index, seconds.get (place index) = firsts.get index
  kept : ∀ earlier later, earlier < later → (firsts.get earlier).Overlaps (firsts.get later) →
    place earlier < place later

section Reordered

variable {firsts seconds : List Declaration} {place : Fin firsts.length ≃ Fin seconds.length}

/-- The inverse of a bijection that keeps the order of overlapping declarations keeps it too. -/
theorem Reorders.symm (reorders : Reorders firsts seconds place) :
    Reorders seconds firsts place.symm := by
  have same : ∀ index, firsts.get (place.symm index) = seconds.get index := fun index => by
    rw [← reorders.same, Equiv.apply_symm_apply]
  refine ⟨same, fun earlier later before overlaps => lt_of_not_ge fun after => ?_⟩
  have different : place.symm later ≠ place.symm earlier := fun equal =>
    before.ne' (place.symm.injective equal)
  have reversed := reorders.kept (place.symm later) (place.symm earlier)
    (lt_of_le_of_ne after different)
    (by rw [same, same]; exact Declaration.overlaps_symm overlaps)
  rw [Equiv.apply_symm_apply, Equiv.apply_symm_apply] at reversed
  exact lt_asymm before reversed

theorem mem_of_reorders (reorders : Reorders firsts seconds place) {declaration : Declaration}
    (member : declaration ∈ firsts) : declaration ∈ seconds := by
  obtain ⟨index, rfl⟩ := List.mem_iff_get.1 member
  rw [← reorders.same index]
  exact List.get_mem seconds (place index)

theorem uncovered_of_reorders (reorders : Reorders firsts seconds place)
    (uncovered : Uncovered (routesOf firsts)) : Uncovered (routesOf seconds) := by
  rw [uncovered_routesOf_iff, List.pairwise_iff_get] at uncovered ⊢
  intro earlier later before covers
  have moved : place.symm earlier < place.symm later :=
    reorders.symm.kept earlier later before (Declaration.overlaps_of_covers covers)
  rw [← reorders.symm.same, ← reorders.symm.same] at covers
  exact uncovered _ _ moved covers

/-- Of two overlapping declarations the same one comes first after the bijection, also when a
declaration occurs several times. -/
theorem idxOf_le_of_reorders (reorders : Reorders firsts seconds place) {one other : Declaration}
    (oneMember : one ∈ firsts) (otherMember : other ∈ seconds) (overlaps : one.Overlaps other)
    (before : firsts.idxOf one < firsts.idxOf other) :
    seconds.idxOf one ≤ seconds.idxOf other := by
  let first : Fin firsts.length := ⟨firsts.idxOf one, List.idxOf_lt_length_of_mem oneMember⟩
  let second : Fin seconds.length := ⟨seconds.idxOf other, List.idxOf_lt_length_of_mem otherMember⟩
  have atFirst : firsts.get first = one := List.getElem_idxOf first.isLt
  have atSecond : seconds.get second = other := List.getElem_idxOf second.isLt
  have origin : firsts.get (place.symm second) = other :=
    (reorders.symm.same second).trans atSecond
  have target : seconds.get (place first) = one := (reorders.same first).trans atFirst
  have ordered : first < place.symm second := by
    refine Nat.lt_of_lt_of_le before ?_
    rw [← origin]
    exact idxOf_get_le firsts (place.symm second)
  have moved : place first < second := by
    have placed := reorders.kept first (place.symm second) ordered
      (by rw [atFirst, origin]; exact overlaps)
    rwa [Equiv.apply_symm_apply] at placed
  calc seconds.idxOf one = seconds.idxOf (seconds.get (place first)) := by rw [target]
    _ ≤ place first := idxOf_get_le seconds (place first)
    _ ≤ seconds.idxOf other := Nat.le_of_lt moved

theorem interchangeable_of_reorders (reorders : Reorders firsts seconds place)
    (shadowing : Shadowing) : Interchangeable shadowing firsts seconds := by
  refine interchangeable_of_order (fun declaration => ?_) ?_ ?_ shadowing
  · exact ⟨mem_of_reorders reorders, mem_of_reorders reorders.symm⟩
  · exact ⟨uncovered_of_reorders reorders, uncovered_of_reorders reorders.symm⟩
  · intro one oneMember other otherMember overlaps before
    exact idxOf_le_of_reorders reorders oneMember (mem_of_reorders reorders otherMember) overlaps
      before

end Reordered

/-! ### Permutations -/

/-- No declaration is covered among declarations of which no two overlap. -/
theorem uncovered_of_disjoint {declarations : List Declaration}
    (disjoint : declarations.Pairwise fun one other => ¬ one.Overlaps other) :
    Uncovered (routesOf declarations) := by
  rw [uncovered_routesOf_iff]
  exact disjoint.imp fun apart covers => apart (Declaration.overlaps_of_covers covers)

theorem interchangeable_of_perm {firsts seconds : List Declaration} (permuted : firsts.Perm seconds)
    (disjoint : firsts.Pairwise fun one other => ¬ one.Overlaps other) (shadowing : Shadowing) :
    Interchangeable shadowing firsts seconds := by
  have symmetric : ∀ {one other : Declaration}, ¬ one.Overlaps other → ¬ other.Overlaps one :=
    fun apart overlaps => apart (Declaration.overlaps_symm overlaps)
  refine interchangeable_of_order (fun _ => permuted.mem_iff) ?_ ?_ shadowing
  · exact iff_of_true (uncovered_of_disjoint disjoint)
      (uncovered_of_disjoint (permuted.pairwise disjoint symmetric))
  · intro one oneMember other otherMember overlaps before
    have different : one ≠ other := fun same => Nat.lt_irrefl _ (same ▸ before)
    have : Std.Symm fun one other : Declaration => ¬ one.Overlaps other := ⟨fun _ _ => symmetric⟩
    exact absurd overlaps (disjoint.forall oneMember otherMember different)

/-- Only the relative order of overlapping declarations matters. Lists that differ by a bijection
of positions that keeps it are interchangeable, whatever the policy; in particular a list of
which no two declarations overlap may be permuted freely. -/
theorem ofDeclarations_interchangeable (shadowing : Shadowing) (firsts seconds : List Declaration) :
    (∀ place : Fin firsts.length ≃ Fin seconds.length, Reorders firsts seconds place →
        Interchangeable shadowing firsts seconds) ∧
      (firsts.Perm seconds →
        (firsts.Pairwise fun one other => ¬ one.Overlaps other) →
          Interchangeable shadowing firsts seconds) :=
  ⟨fun _ reorders => interchangeable_of_reorders reorders shadowing,
    fun permuted disjoint => interchangeable_of_perm permuted disjoint shadowing⟩

theorem ofDeclarations_interchangeable_portfolio :
    let special : Declaration := ⟨"/market/portfolio", .market⟩
    let general : Declaration := ⟨"/:accountId/portfolio", .portfolio⟩
    let apart : Declaration := ⟨"/market", .market⟩
    special.Overlaps general ∧
      Reorders [special, general, apart] [apart, special, general] (finRotate 3) ∧
      Interchangeable .reject [special, general, apart] [apart, special, general] ∧
      ([general, apart].Pairwise fun one other => ¬ one.Overlaps other) ∧
      Interchangeable .reject [general, apart] [apart, general] := by
  intro special general apart
  have reorders : Reorders [special, general, apart] [apart, special, general] (finRotate 3) :=
    ⟨by decide, by decide⟩
  have disjoint : [general, apart].Pairwise fun one other => ¬ one.Overlaps other := by decide
  exact ⟨by decide, reorders,
    (ofDeclarations_interchangeable .reject _ _).1 (finRotate 3) reorders, disjoint,
    (ofDeclarations_interchangeable .reject _ _).2 (List.Perm.swap apart general []) disjoint⟩

end RouteTable

end Wayfinder
