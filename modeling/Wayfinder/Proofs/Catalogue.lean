/-
This file reads the declared routes and compares them. No active route is covered by an earlier
one, and none covers a planned route. Among the planned routes only the two on which a payment
method is named are more general than another one, the choice of the method, and no other two
overlap.
-/
import Wayfinder.Proofs.Declaring
import Wayfinder.Proofs.Overlapping

namespace Wayfinder.Catalogue

/-! ### Keys -/

/-- A key is known when a planned route has it. -/
def Known (key : String) : Prop :=
  ∃ planned ∈ plannedRoutes, planned.key = key

instance (key : String) : Decidable (Known key) :=
  inferInstanceAs (Decidable (∃ planned ∈ plannedRoutes, planned.key = key))

/-- The declaration of a key, if it is known. -/
def declaration? (key : String) : Option Declaration :=
  (planned? key).map PlannedRoute.declaration

theorem known_iff (key : String) : Known key ↔ ∃ planned, planned? key = some planned := by
  rw [← Option.isSome_iff_exists, planned?, List.find?_isSome]
  simp only [Known, beq_iff_eq]

theorem known_iff_declared (key : String) :
    Known key ↔ ∃ declaration, declaration? key = some declaration := by
  rw [known_iff, ← Option.isSome_iff_exists, ← Option.isSome_iff_exists, declaration?,
    Option.isSome_map]

theorem planned?_eq_none_iff (key : String) : planned? key = none ↔ ¬ Known key := by
  rw [known_iff, not_exists, Option.eq_none_iff_forall_ne_some]

theorem of_planned? {key : String} {planned : PlannedRoute} (found : planned? key = some planned) :
    planned ∈ plannedRoutes ∧ planned.key = key := by
  rw [planned?] at found
  have sameKey := List.find?_some found
  simp only [beq_iff_eq] at sameKey
  exact ⟨List.mem_of_find?_eq_some found, sameKey⟩

/-! ### Reading -/

/-- The patterns of the active routes. -/
def activePatterns : List Pattern :=
  [⟨[]⟩,
    ⟨[.literal "transaction-history"]⟩,
    ⟨[.literal "transaction-history", .parameter "transactionId", .literal "details"]⟩,
    ⟨[.parameter "accountId", .literal "portfolio"]⟩,
    ⟨[.literal "market"]⟩,
    ⟨[.literal "order-history"]⟩]

/-- The patterns of the planned routes, with their keys. -/
def plannedPatterns : List (String × Pattern) :=
  (plannedRoutes.map PlannedRoute.key).zip
    [⟨[.literal "register"]⟩,
      ⟨[.literal "forget-password"]⟩,
      ⟨[.literal "reset-password"]⟩,
      ⟨[.literal "home"]⟩,
      ⟨[.parameter "accountId", .literal "withdraw", .literal "choose-payment-method"]⟩,
      ⟨[.parameter "accountId", .literal "withdraw", .parameter "paymentMethodId"]⟩,
      ⟨[.parameter "accountId", .literal "deposit", .literal "choose-payment-method"]⟩,
      ⟨[.parameter "accountId", .literal "deposit", .parameter "paymentMethodId"]⟩,
      ⟨[.literal "wallet"]⟩,
      ⟨[.literal "support"]⟩,
      ⟨[.literal "setting"]⟩,
      ⟨[.literal "setting", .literal "2fa-settings"]⟩,
      ⟨[.literal "setting", .literal "change-password"]⟩,
      ⟨[.literal "setting", .literal "generate-recovery-keys"]⟩,
      ⟨[.literal "payment-methods"]⟩,
      ⟨[.literal "two-factor-auth"]⟩,
      ⟨[.literal "2fa-verify"]⟩,
      ⟨[.literal "profile", .literal "update-phone"]⟩,
      ⟨[.literal "profile", .literal "disable2FA"]⟩]

theorem parse_activeRoutes :
    activeRoutes.map (fun declaration => Pattern.parse declaration.pattern) =
      activePatterns.map .ok := by
  decide +kernel

theorem parse_plannedRoutes :
    plannedRoutes.map (fun planned =>
        (planned.key, Pattern.parse planned.declaration.pattern)) =
      plannedPatterns.map fun entry => (entry.1, .ok entry.2) := by
  decide +kernel

theorem exists_active_pattern {declaration : Declaration} (member : declaration ∈ activeRoutes) :
    ∃ pattern ∈ activePatterns, Pattern.parse declaration.pattern = .ok pattern := by
  have read := List.mem_map_of_mem
    (f := fun declaration : Declaration => Pattern.parse declaration.pattern) member
  rw [parse_activeRoutes] at read
  obtain ⟨pattern, inside, same⟩ := List.mem_map.1 read
  exact ⟨pattern, inside, same.symm⟩

theorem activeRoutes_readable :
    ∀ declaration ∈ activeRoutes, declaration.route?.isSome = true := by
  intro declaration member
  obtain ⟨pattern, _, parsed⟩ := exists_active_pattern member
  rw [Declaration.route?_of_parse parsed]
  rfl

theorem exists_planned_pattern {key : String} {declaration : Declaration}
    (found : declaration? key = some declaration) :
    ∃ pattern, (key, pattern) ∈ plannedPatterns ∧
      Pattern.parse declaration.pattern = .ok pattern := by
  obtain ⟨planned, foundPlanned, rfl⟩ := Option.map_eq_some_iff.1 found
  obtain ⟨member, rfl⟩ := of_planned? foundPlanned
  have read := List.mem_map_of_mem (f := fun planned : PlannedRoute =>
    (planned.key, Pattern.parse planned.declaration.pattern)) member
  rw [parse_plannedRoutes] at read
  obtain ⟨⟨key, pattern⟩, inside, same⟩ := List.mem_map.1 read
  obtain ⟨rfl, parsed⟩ := Prod.mk.inj same
  exact ⟨pattern, inside, parsed.symm⟩

theorem readable_of_declaration? {key : String} {declaration : Declaration}
    (found : declaration? key = some declaration) : declaration.route?.isSome = true := by
  obtain ⟨pattern, _, parsed⟩ := exists_planned_pattern found
  rw [Declaration.route?_of_parse parsed]
  rfl

/-! ### Comparing -/

/-- The first key is that of a route that is more general than the route of the second key. -/
def Generalizes (general special : String) : Prop :=
  (general, special) ∈ [("withdraw", "withdraw-choose-payment-method"),
    ("deposit", "deposit-choose-payment-method")]

instance (general special : String) : Decidable (Generalizes general special) :=
  inferInstanceAs (Decidable (_ ∈ _))

theorem activePatterns_not_covers :
    ∀ active ∈ activePatterns, ∀ entry ∈ plannedPatterns, active.covers entry.2 = false := by
  decide +kernel

theorem plannedPatterns_covers_iff :
    ∀ one ∈ plannedPatterns, ∀ other ∈ plannedPatterns,
      one.2.covers other.2 = true ↔ one.1 = other.1 ∨ Generalizes one.1 other.1 := by
  decide +kernel

theorem plannedPatterns_overlaps :
    ∀ one ∈ plannedPatterns, ∀ other ∈ plannedPatterns, one.2.overlaps other.2 = true →
      one.1 = other.1 ∨ Generalizes one.1 other.1 ∨ Generalizes other.1 one.1 := by
  decide +kernel

/-- No active route is covered by an earlier one. -/
theorem activeRoutes_uncovered :
    activeRoutes.Pairwise fun earlier later => ¬ earlier.Covers later := by
  decide +kernel

/-- No active route covers a planned one. -/
theorem not_covers_of_active {active declaration : Declaration} {key : String}
    (member : active ∈ activeRoutes) (found : declaration? key = some declaration) :
    ¬ active.Covers declaration := by
  obtain ⟨general, generalMember, parsedGeneral⟩ := exists_active_pattern member
  obtain ⟨special, specialMember, parsedSpecial⟩ := exists_planned_pattern found
  rw [Declaration.Covers, Declaration.related_iff parsedGeneral parsedSpecial]
  exact Bool.eq_false_iff.1 (activePatterns_not_covers general generalMember _ specialMember)

section Planned

variable {one other : String} {oneDeclared otherDeclared : Declaration}

/-- A planned route covers itself and those that it generalizes. -/
theorem covers_iff (foundOne : declaration? one = some oneDeclared)
    (foundOther : declaration? other = some otherDeclared) :
    oneDeclared.Covers otherDeclared ↔ one = other ∨ Generalizes one other := by
  obtain ⟨onePattern, oneMember, parsedOne⟩ := exists_planned_pattern foundOne
  obtain ⟨otherPattern, otherMember, parsedOther⟩ := exists_planned_pattern foundOther
  rw [Declaration.Covers, Declaration.related_iff parsedOne parsedOther]
  exact plannedPatterns_covers_iff _ oneMember _ otherMember

/-- Planned routes overlap only if they are the same or one generalizes the other. -/
theorem key_eq_or_generalizes_of_overlaps (foundOne : declaration? one = some oneDeclared)
    (foundOther : declaration? other = some otherDeclared)
    (overlaps : oneDeclared.Overlaps otherDeclared) :
    one = other ∨ Generalizes one other ∨ Generalizes other one := by
  obtain ⟨onePattern, oneMember, parsedOne⟩ := exists_planned_pattern foundOne
  obtain ⟨otherPattern, otherMember, parsedOther⟩ := exists_planned_pattern foundOther
  rw [Declaration.Overlaps, Declaration.related_iff parsedOne parsedOther] at overlaps
  exact plannedPatterns_overlaps _ oneMember _ otherMember overlaps

end Planned

end Wayfinder.Catalogue
