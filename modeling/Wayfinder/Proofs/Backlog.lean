/-
This file says exactly what a list of backlog keys leads to. A table that keeps covered routes is
made from any list of known keys. A table that rejects them is made when moreover no key occurs
twice and none comes after one that generalizes it; otherwise the first key that breaks one of
these rules gives the error. The order of the keys and their repetitions matter to no path, as
long as of two keys of which one generalizes the other the same one comes first.
-/
import Wayfinder.Proofs.Catalogue
import Wayfinder.Proofs.Reordering

namespace Wayfinder.RouteTable

open Catalogue

/-! ### Key after key -/

theorem enableAll_cons (table : RouteTable) (key : String) (rest : List String) :
    table.enableAll (key :: rest) = (table.enableAll [key]).bind (·.enableAll rest) := by
  rw [enableAll, enableAll]
  cases planned? key with
  | none => rfl
  | some planned =>
    rcases registered : table.register planned.declaration.pattern planned.declaration.page with
      ⟨_ | _, extended⟩ <;> simp [registered, enableAll, Except.bind]

theorem enableAll_append (table : RouteTable) (first second : List String) :
    table.enableAll (first ++ second) = (table.enableAll first).bind (·.enableAll second) := by
  induction first generalizing table with
  | nil => rfl
  | cons key rest inductionHypothesis =>
    rw [List.cons_append, enableAll_cons, enableAll_cons table key rest]
    cases table.enableAll [key] with
    | error error => rfl
    | ok extended => exact inductionHypothesis extended

theorem exists_refused {table : RouteTable} {keys : List String} {error : RouteError}
    (failed : table.enableAll keys = .error error) :
    ∃ earlier key later reached, keys = earlier ++ key :: later ∧
      table.enableAll earlier = .ok reached ∧ reached.enableAll [key] = .error error := by
  induction keys generalizing table with
  | nil => cases failed
  | cons first rest inductionHypothesis =>
    rw [enableAll_cons] at failed
    cases enabled : table.enableAll [first] with
    | error failure =>
      rw [enabled] at failed
      exact ⟨[], first, rest, table, rfl, rfl, enabled.trans failed⟩
    | ok extended =>
      rw [enabled] at failed
      obtain ⟨earlier, key, later, reached, rfl, reaches, refused⟩ := inductionHypothesis failed
      refine ⟨first :: earlier, key, later, reached, rfl, ?_, refused⟩
      rw [enableAll_cons, enabled]
      exact reaches

/-- Enabling keys fails at the first key that cannot be enabled, with its error. -/
theorem enableAll_eq_error_iff (table : RouteTable) (keys : List String) (error : RouteError) :
    table.enableAll keys = .error error ↔
      ∃ earlier key later reached, keys = earlier ++ key :: later ∧
        table.enableAll earlier = .ok reached ∧ reached.enableAll [key] = .error error := by
  refine ⟨exists_refused, ?_⟩
  rintro ⟨earlier, key, later, reached, rfl, reaches, refused⟩
  rw [enableAll_append, reaches, Except.bind, enableAll_cons, refused, Except.bind]

/-! ### The table of a list of keys -/

/-- The declarations of keys, without those that are not known. -/
def declarationsOf (keys : List String) : List Declaration :=
  keys.filterMap declaration?

/-- The table with the active routes and those of some keys. -/
def backlogTable (shadowing : Shadowing) (keys : List String) : RouteTable :=
  ⟨shadowing, routesOf (activeRoutes ++ declarationsOf keys)⟩

/-- Keys are enabled when all are known and their declarations are registered. -/
theorem enableAll_eq_ok_iff (table result : RouteTable) (keys : List String) :
    table.enableAll keys = .ok result ↔
      (∀ key ∈ keys, Known key) ∧ table.registerAll (declarationsOf keys) = .ok result := by
  induction keys generalizing table with
  | nil => simp [enableAll, declarationsOf, registerAll]
  | cons key rest inductionHypothesis =>
    rw [List.forall_mem_cons, enableAll]
    cases found : planned? key with
    | none => simp [(planned?_eq_none_iff key).1 found]
    | some planned =>
      have known : Known key := (known_iff key).2 ⟨planned, found⟩
      have declarations : declarationsOf (key :: rest) =
          planned.declaration :: declarationsOf rest :=
        List.filterMap_cons_some (by rw [declaration?, found]; rfl)
      rw [declarations, registerAll]
      rcases registered : table.register planned.declaration.pattern planned.declaration.page with
        ⟨outcome, extended⟩
      cases outcome with
      | error error => simp [registered]
      | ok => simp [registered, known, inductionHypothesis]

theorem readable_of_mem {keys : List String} :
    ∀ declaration ∈ activeRoutes ++ declarationsOf keys, declaration.route?.isSome = true := by
  intro declaration member
  rcases List.mem_append.1 member with active | planned
  · exact activeRoutes_readable declaration active
  · obtain ⟨key, _, found⟩ := List.mem_filterMap.1 planned
    exact readable_of_declaration? found

theorem ofDeclarations_activeRoutes (shadowing : Shadowing) :
    ofDeclarations shadowing activeRoutes = .ok (backlogTable shadowing []) := by
  refine (ofDeclarations_eq_ok_iff shadowing activeRoutes _).2 ⟨activeRoutes_readable, ?_, ?_⟩
  · exact fun _ => (uncovered_routesOf_iff activeRoutes).2 activeRoutes_uncovered
  · rw [backlogTable, declarationsOf, List.filterMap_nil, List.append_nil]

theorem withBacklog_eq (shadowing : Shadowing) (keys : List String) :
    withBacklog shadowing keys = (backlogTable shadowing []).enableAll keys := by
  rw [withBacklog, ofDeclarations_activeRoutes]

/-! ### Orderly lists of keys -/

/-- The lists of keys that the policy that rejects covered routes accepts: all keys are known,
none occurs twice, and none comes after a key that generalizes it. -/
structure Orderly (keys : List String) : Prop where
  known : ∀ key ∈ keys, Known key
  distinct : keys.Nodup
  ordered : ∀ general special, Generalizes general special →
    ¬ [general, special].Sublist keys

/-- The active routes disturb no planned one, so that only the order of the keys counts. -/
theorem uncovered_backlog_iff (keys : List String) :
    Uncovered (routesOf (activeRoutes ++ declarationsOf keys)) ↔
      keys.Pairwise fun earlier later => ∀ general, declaration? earlier = some general →
        ∀ special, declaration? later = some special → ¬ general.Covers special := by
  have apart : ∀ active ∈ activeRoutes, ∀ declaration ∈ declarationsOf keys,
      ¬ active.Covers declaration := by
    intro active member declaration planned
    obtain ⟨key, _, found⟩ := List.mem_filterMap.1 planned
    exact not_covers_of_active member found
  rw [uncovered_routesOf_iff, List.pairwise_append, and_iff_right activeRoutes_uncovered,
    and_iff_left apart, declarationsOf, List.pairwise_filterMap]

theorem uncovered_iff_orderly {keys : List String} (known : ∀ key ∈ keys, Known key) :
    Uncovered (routesOf (activeRoutes ++ declarationsOf keys)) ↔ Orderly keys := by
  rw [uncovered_backlog_iff]
  constructor
  · intro uncovered
    have free : ∀ {earlier later : String}, [earlier, later].Sublist keys →
        ¬ (earlier = later ∨ Generalizes earlier later) := by
      intro earlier later inside related
      obtain ⟨general, foundGeneral⟩ :=
        (known_iff_declared earlier).1 (known earlier (inside.subset List.mem_cons_self))
      obtain ⟨special, foundSpecial⟩ :=
        (known_iff_declared later).1
          (known later (inside.subset (List.mem_cons_of_mem _ List.mem_cons_self)))
      exact List.pairwise_iff_forall_sublist.1 uncovered inside general foundGeneral special
        foundSpecial ((covers_iff foundGeneral foundSpecial).2 related)
    refine ⟨known, List.pairwise_iff_forall_sublist.2 fun inside same => ?_, ?_⟩
    · exact free inside (Or.inl same)
    · exact fun general special generalizes inside => free inside (Or.inr generalizes)
  · intro orderly
    refine List.pairwise_iff_forall_sublist.2 fun {earlier later} inside => ?_
    intro general foundGeneral special foundSpecial covers
    rcases (covers_iff foundGeneral foundSpecial).1 covers with same | generalizes
    · exact List.pairwise_iff_forall_sublist.1 orderly.distinct inside same
    · exact orderly.ordered earlier later generalizes inside

/-- Known keys make their table, which under the policy that rejects covered routes takes an
orderly list. -/
theorem withBacklog_eq_ok_iff (shadowing : Shadowing) (keys : List String)
    (result : RouteTable) :
    withBacklog shadowing keys = .ok result ↔
      (∀ key ∈ keys, Known key) ∧ (shadowing = .reject → Orderly keys) ∧
        result = backlogTable shadowing keys := by
  have start : shadowing = .reject → Uncovered (backlogTable shadowing []).routes :=
    fun _ => (uncovered_iff_orderly (List.forall_mem_nil _)).2
      ⟨List.forall_mem_nil _, List.nodup_nil, fun _ _ _ inside => nomatch inside⟩
  have whole : (backlogTable shadowing []).extend (routesOf (declarationsOf keys)) =
      backlogTable shadowing keys := by
    rw [extend, backlogTable, backlogTable, routesOf, routesOf, routesOf, List.filterMap_append,
      List.filterMap_append]
    simp [declarationsOf]
  rw [withBacklog_eq, enableAll_eq_ok_iff, registerAll_eq_ok_iff _ _ _ start, whole]
  refine and_congr_right fun known => ?_
  have readable : ∀ declaration ∈ declarationsOf keys, declaration.route?.isSome = true :=
    fun declaration member => readable_of_mem declaration (List.mem_append_right _ member)
  rw [and_iff_right readable, ← uncovered_iff_orderly known]
  rfl

/-! ### Faults -/

/-- What is wrong with a key after the keys in front of it. A key that occurs again counts as
repeated, even if a key that generalizes it stands in front of it too. -/
inductive Fault (earlier : List String) (key : String) : RouteError → Prop where
  | unknown (unknown : ¬ Known key) : Fault earlier key (.unknownKey key)
  | repeated {declaration : Declaration} (found : declaration? key = some declaration)
      (again : key ∈ earlier) :
      Fault earlier key (.shadowed declaration.pattern declaration.pattern)
  | misordered {general : String} {declaration broad : Declaration}
      (found : declaration? key = some declaration) (fresh : key ∉ earlier)
      (generalizes : Generalizes general key) (before : general ∈ earlier)
      (foundGeneral : declaration? general = some broad) :
      Fault earlier key (.shadowed declaration.pattern broad.pattern)

example : Fault ["wallet", "withdraw"] "withdraw-choose-payment-method"
    (.shadowed "/:accountId/withdraw/choose-payment-method"
      "/:accountId/withdraw/:paymentMethodId") := by
  have special : declaration? "withdraw-choose-payment-method" =
      some ⟨"/:accountId/withdraw/choose-payment-method", .withdrawMethod⟩ := rfl
  have general : declaration? "withdraw" =
      some ⟨"/:accountId/withdraw/:paymentMethodId", .withdraw⟩ := rfl
  exact .misordered special (by decide) (by decide) (by decide) general

theorem generalizes_unique {first second special : String} (byFirst : Generalizes first special)
    (bySecond : Generalizes second special) : first = second := by
  simp only [Generalizes, List.mem_cons, Prod.mk.injEq, List.not_mem_nil, or_false] at *
  rcases byFirst with ⟨rfl, rfl⟩ | ⟨rfl, rfl⟩ <;> simpa [eq_comm] using bySecond

/-- A key has one fault at most. -/
theorem fault_unique {earlier : List String} {key : String} {first second : RouteError}
    (isFirst : Fault earlier key first) (isSecond : Fault earlier key second) :
    first = second := by
  have known : ∀ {declaration}, declaration? key = some declaration → Known key :=
    fun found => (known_iff_declared key).2 ⟨_, found⟩
  cases isFirst with
  | unknown unknown =>
    cases isSecond with
    | unknown _ => rfl
    | repeated found _ => exact absurd (known found) unknown
    | misordered found => exact absurd (known found) unknown
  | repeated found again =>
    cases isSecond with
    | unknown unknown => exact absurd (known found) unknown
    | repeated foundToo _ =>
      cases found.symm.trans foundToo
      rfl
    | misordered _ fresh => exact absurd again fresh
  | misordered found fresh generalizes _ foundGeneral =>
    cases isSecond with
    | unknown unknown => exact absurd (known found) unknown
    | repeated _ again => exact absurd again fresh
    | misordered foundToo _ generalizesToo _ foundGeneralToo =>
      cases generalizes_unique generalizes generalizesToo
      cases found.symm.trans foundToo
      cases foundGeneral.symm.trans foundGeneralToo
      rfl

/-- A list of keys with a fault at its end is not orderly. -/
theorem not_orderly_of_fault {earlier : List String} {key : String} {error : RouteError}
    (fault : Fault earlier key error) : ¬ Orderly (earlier ++ [key]) := by
  intro orderly
  cases fault with
  | unknown unknown => exact unknown (orderly.known key List.mem_concat_self)
  | repeated _ again =>
    exact (List.nodup_append.1 orderly.distinct).2.2 key again key (List.mem_singleton_self key) rfl
  | misordered _ _ generalizes before _ =>
    exact orderly.ordered _ _ generalizes
      ((List.singleton_sublist.2 before).append (List.Sublist.refl [key]))

/-! ### Refusals -/

theorem enableAll_singleton_eq_error_iff (table : RouteTable) (key : String)
    (error : RouteError) :
    table.enableAll [key] = .error error ↔
      (¬ Known key ∧ error = .unknownKey key) ∨
        ∃ declaration, declaration? key = some declaration ∧
          (table.register declaration.pattern declaration.page).1 = .error error := by
  rw [enableAll, declaration?, ← planned?_eq_none_iff]
  cases planned? key with
  | none => simp [eq_comm]
  | some planned =>
    rcases registered : table.register planned.declaration.pattern planned.declaration.page with
      ⟨_ | _, extended⟩ <;> simp [registered, enableAll]

/-- The first route that covers a planned one belongs to a key that stands in front of it, and no
earlier than the planned one itself if that has been enabled before. -/
theorem exists_blocker {shadowing : Shadowing} {keys : List String} {key : String}
    {declaration : Declaration} {route blocking : Route}
    (found : declaration? key = some declaration) (read : declaration.route? = some route)
    (blocked : (backlogTable shadowing keys).coveredBy? route.pattern = some blocking) :
    ∃ before blocker after general, keys = before ++ blocker :: after ∧ key ∉ before ∧
      declaration? blocker = some general ∧ general.route? = some blocking ∧
        general.Covers declaration := by
  have parsed := Declaration.parse_of_route? read
  have active : (routesOf activeRoutes).find? (·.pattern.covers route.pattern) = none := by
    refine List.find?_eq_none.2 fun other member covers => ?_
    obtain ⟨general, generalMember, readGeneral⟩ := List.mem_filterMap.1 member
    exact not_covers_of_active generalMember found
      ((Declaration.related_iff (Declaration.parse_of_route? readGeneral) parsed _).2 covers)
  have inBacklog : ((keys.filterMap fun key => (declaration? key).bind Declaration.route?).find?
      (·.pattern.covers route.pattern)) = some blocking := by
    rw [coveredBy?, backlogTable, routesOf, List.filterMap_append, List.find?_append] at blocked
    rw [routesOf] at active
    rw [active, Option.none_or, declarationsOf, List.filterMap_filterMap] at blocked
    exact blocked
  rw [List.find?_filterMap] at inBacklog
  obtain ⟨blocker, first, readBlocker⟩ := Option.bind_eq_some_iff.1 inBacklog
  obtain ⟨covers, before, after, rfl, misses⟩ := List.find?_eq_some_iff_append.1 first
  obtain ⟨general, foundGeneral, readGeneral⟩ := Option.bind_eq_some_iff.1 readBlocker
  refine ⟨before, blocker, after, general, rfl, fun inside => ?_, foundGeneral, readGeneral, ?_⟩
  · have missed := misses key inside
    simp [found, read, Pattern.covers_refl] at missed
  · rw [readBlocker, Option.any_some] at covers
    exact (Declaration.related_iff (Declaration.parse_of_route? readGeneral) parsed _).2 covers

/-- After an orderly list, a key that is refused has a fault. -/
theorem fault_of_refused {earlier : List String} (orderly : Orderly earlier) {key : String}
    {error : RouteError} (refused : (backlogTable .reject earlier).enableAll [key] = .error error) :
    Fault earlier key error := by
  rcases (enableAll_singleton_eq_error_iff _ key error).1 refused with
    ⟨unknown, rfl⟩ | ⟨declaration, found, failed⟩
  · exact Fault.unknown unknown
  · obtain ⟨route, read⟩ := Option.isSome_iff_exists.1 (readable_of_declaration? found)
    obtain ⟨_, blocking, blocked, rfl⟩ := (register_eq_error_iff _ error read).1 failed
    obtain ⟨before, blocker, after, general, rfl, fresh, foundGeneral, readGeneral, covers⟩ :=
      exists_blocker found read blocked
    have text : blocking.pattern.text = general.pattern :=
      congrArg Declaration.pattern (Declaration.eq_of_route? readGeneral)
    have inFront : blocker ∈ before ++ blocker :: after :=
      List.mem_append_right before List.mem_cons_self
    rw [text]
    by_cases same : blocker = key
    · subst same
      cases found.symm.trans foundGeneral
      exact Fault.repeated found inFront
    · have generalizes := ((covers_iff foundGeneral found).1 covers).resolve_left same
      refine Fault.misordered found (fun again => ?_) generalizes inFront foundGeneral
      -- The key would come after the blocker, which an orderly list does not allow.
      rcases List.mem_append.1 again with inBefore | inRest
      · exact fresh inBefore
      · have inAfter := (List.mem_cons.1 inRest).resolve_left (Ne.symm same)
        have apart : [blocker, key].Sublist (before ++ blocker :: after) :=
          ((List.singleton_sublist.2 inAfter).cons_cons blocker).trans
            (List.sublist_append_right before (blocker :: after))
        exact orderly.ordered blocker key generalizes apart

/-- Keys fail at the first one that is refused after those in front of it have made a table. -/
theorem withBacklog_eq_error_iff (shadowing : Shadowing) (keys : List String)
    (error : RouteError) :
    withBacklog shadowing keys = .error error ↔
      ∃ earlier key later, keys = earlier ++ key :: later ∧ (∀ key ∈ earlier, Known key) ∧
        (shadowing = .reject → Orderly earlier) ∧
          (backlogTable shadowing earlier).enableAll [key] = .error error := by
  rw [withBacklog_eq, enableAll_eq_error_iff]
  simp only [← withBacklog_eq, withBacklog_eq_ok_iff]
  constructor
  · rintro ⟨earlier, key, later, _, rfl, ⟨known, orderly, rfl⟩, failed⟩
    exact ⟨earlier, key, later, rfl, known, orderly, failed⟩
  · rintro ⟨earlier, key, later, rfl, known, orderly, failed⟩
    exact ⟨earlier, key, later, _, rfl, ⟨known, orderly, rfl⟩, failed⟩

/-- After an orderly list exactly the keys with a fault are refused. -/
theorem refused_iff_fault {earlier : List String} (orderly : Orderly earlier) (key : String)
    (error : RouteError) :
    (backlogTable .reject earlier).enableAll [key] = .error error ↔ Fault earlier key error := by
  refine ⟨fault_of_refused orderly, fun fault => ?_⟩
  cases enabled : (backlogTable .reject earlier).enableAll [key] with
  | error failure => rw [fault_unique (fault_of_refused orderly enabled) fault]
  | ok extended =>
    have reaches := (withBacklog_eq_ok_iff .reject earlier _).2
      ⟨orderly.known, fun _ => orderly, rfl⟩
    have whole : withBacklog .reject (earlier ++ [key]) = .ok extended := by
      rw [withBacklog_eq, enableAll_append, ← withBacklog_eq, reaches]
      exact enabled
    have orderlyToo := ((withBacklog_eq_ok_iff .reject _ _).1 whole).2.1 rfl
    exact absurd orderlyToo (not_orderly_of_fault fault)

/-- The policy that keeps covered routes refuses exactly the keys that are not known. -/
theorem refused_by_warn_iff (keys : List String) (key : String) (error : RouteError) :
    (backlogTable .warn keys).enableAll [key] = .error error ↔
      ¬ Known key ∧ error = .unknownKey key := by
  rw [enableAll_singleton_eq_error_iff]
  refine or_iff_left ?_
  rintro ⟨declaration, found, failed⟩
  obtain ⟨route, read⟩ := Option.isSome_iff_exists.1 (readable_of_declaration? found)
  cases ((register_eq_error_iff _ error read).1 failed).1

/-! ### The outcome for a list of keys -/

/-- Known keys have declarations, in their order. -/
theorem exists_planned {keys : List String} (known : ∀ key ∈ keys, Known key) :
    ∃ planned : List PlannedRoute, keys.map planned? = planned.map some ∧
      declarationsOf keys = planned.map PlannedRoute.declaration := by
  induction keys with
  | nil => exact ⟨[], rfl, rfl⟩
  | cons key rest inductionHypothesis =>
    obtain ⟨knownFirst, knownRest⟩ := List.forall_mem_cons.1 known
    obtain ⟨first, found⟩ := (known_iff key).1 knownFirst
    obtain ⟨planned, foundRest, declared⟩ := inductionHypothesis knownRest
    refine ⟨first :: planned, ?_, ?_⟩
    · rw [List.map_cons, List.map_cons, found, foundRest]
    · rw [List.map_cons, ← declared]
      exact List.filterMap_cons_some (by rw [declaration?, found]; rfl)

/-- What a list of backlog keys leads to. Under the policy that keeps covered routes it takes known
keys, and otherwise fails at the first one that is not known. Under the policy that rejects them
it takes an orderly list, and otherwise fails at the first key with a fault. The table declares the
active routes and then those of the keys, in their order. -/
theorem withBacklog_outcome (keys : List String) :
    ((∃ table, withBacklog .warn keys = .ok table) ↔ ∀ key ∈ keys, Known key) ∧
      (∀ error, withBacklog .warn keys = .error error ↔
        ∃ earlier key later, keys = earlier ++ key :: later ∧ (∀ other ∈ earlier, Known other) ∧
          ¬ Known key ∧ error = .unknownKey key) ∧
      ((∃ table, withBacklog .reject keys = .ok table) ↔ Orderly keys) ∧
      (∀ error, withBacklog .reject keys = .error error ↔
        ∃ earlier key later, keys = earlier ++ key :: later ∧ Orderly earlier ∧
          Fault earlier key error) ∧
      ∀ shadowing table, withBacklog shadowing keys = .ok table →
        ∃ planned : List PlannedRoute, keys.map planned? = planned.map some ∧
          table.declarations = activeRoutes ++ planned.map PlannedRoute.declaration := by
  refine ⟨?_, fun error => ?_, ?_, fun error => ?_, fun shadowing table made => ?_⟩
  · simp [withBacklog_eq_ok_iff]
  · rw [withBacklog_eq_error_iff]
    refine exists_congr fun earlier => exists_congr fun key => exists_congr fun later => ?_
    rw [refused_by_warn_iff]
    exact and_congr_right fun _ => and_congr_right fun _ => and_iff_right (nomatch ·)
  · simp only [withBacklog_eq_ok_iff, true_implies, exists_and_left, exists_eq, and_true]
    exact and_iff_right_of_imp Orderly.known
  · rw [withBacklog_eq_error_iff]
    refine exists_congr fun earlier => exists_congr fun key => exists_congr fun later => ?_
    refine and_congr_right fun _ => ⟨?_, ?_⟩
    · rintro ⟨_, orderly, refused⟩
      exact ⟨orderly rfl, fault_of_refused (orderly rfl) refused⟩
    · rintro ⟨orderly, fault⟩
      exact ⟨orderly.known, fun _ => orderly, (refused_iff_fault orderly key error).2 fault⟩
  · obtain ⟨known, _, rfl⟩ := (withBacklog_eq_ok_iff shadowing keys table).1 made
    obtain ⟨planned, found, declared⟩ := exists_planned known
    refine ⟨planned, found, ?_⟩
    rw [backlogTable, declarations_routesOf readable_of_mem, declared]

/-! ### Order and repetition -/

/-- The same keys occur in two lists, and of two keys of which one generalizes the other the same
one occurs first in both. -/
structure SameChoices (firsts seconds : List String) : Prop where
  keys : ∀ key, key ∈ firsts ↔ key ∈ seconds
  order : ∀ general special, Generalizes general special → general ∈ firsts → special ∈ firsts →
    (firsts.idxOf special < firsts.idxOf general ↔
      seconds.idxOf special < seconds.idxOf general)

/-- Where a key leads a path, if it is known and its pattern matches. -/
def leadOf? (path key : String) : Option RouteMatch :=
  (declaration? key).bind (·.lead? path)

theorem leadOf?_isSome_iff (path key : String) :
    (leadOf? path key).isSome = true ↔
      ∃ declaration, declaration? key = some declaration ∧
        (declaration.lead? path).isSome = true := by
  cases found : declaration? key <;> simp [leadOf?, found]

/-- The active routes come first, and after them the first key that leads a path decides. -/
theorem resolve_backlogTable (shadowing : Shadowing) (keys : List String) (path : String) :
    (backlogTable shadowing keys).resolve path =
      (activeRoutes.findSome? (·.lead? path)).or (keys.findSome? (leadOf? path)) := by
  rw [backlogTable, resolve_routesOf, List.findSome?_append, declarationsOf]
  congr 1
  rw [← List.head?_filterMap, List.filterMap_filterMap, List.head?_filterMap]
  rfl

/-- Two keys that lead the same path are the same, or one generalizes the other. -/
theorem key_eq_or_generalizes_of_leadOf? {path one other : String}
    (byOne : (leadOf? path one).isSome = true) (byOther : (leadOf? path other).isSome = true) :
    one = other ∨ Generalizes one other ∨ Generalizes other one := by
  obtain ⟨oneDeclared, foundOne, leadsOne⟩ := (leadOf?_isSome_iff path one).1 byOne
  obtain ⟨otherDeclared, foundOther, leadsOther⟩ := (leadOf?_isSome_iff path other).1 byOther
  exact key_eq_or_generalizes_of_overlaps foundOne foundOther
    (Declaration.overlaps_of_lead? leadsOne leadsOther)

/-- Of two keys that lead the same path the one that comes first in a list comes no later in any
list with the same choices. -/
theorem idxOf_le_of_sameChoices {firsts seconds : List String}
    (same : SameChoices firsts seconds) {path one other : String} (oneMember : one ∈ firsts)
    (otherMember : other ∈ firsts) (byOne : (leadOf? path one).isSome = true)
    (byOther : (leadOf? path other).isSome = true)
    (before : firsts.idxOf one < firsts.idxOf other) :
    seconds.idxOf one ≤ seconds.idxOf other := by
  rcases key_eq_or_generalizes_of_leadOf? byOne byOther with equal | general | special
  · rw [equal]
  · refine Nat.le_of_not_lt fun reversed => ?_
    exact Nat.lt_asymm before ((same.order one other general oneMember otherMember).2 reversed)
  · exact Nat.le_of_lt ((same.order other one special otherMember oneMember).1 before)

/-- The order and the repetition of known keys almost never matter: lists with the same choices
make tables that lead every path to the same place. -/
theorem withBacklog_resolve_eq_of_sameChoices {firsts seconds : List String}
    (known : ∀ key ∈ firsts, Known key) (same : SameChoices firsts seconds) :
    ∃ first second, withBacklog .warn firsts = .ok first ∧
      withBacklog .warn seconds = .ok second ∧
        ∀ path, first.resolve path = second.resolve path := by
  have knownToo : ∀ key ∈ seconds, Known key := fun key member =>
    known key ((same.keys key).2 member)
  refine ⟨backlogTable .warn firsts, backlogTable .warn seconds, ?_, ?_, fun path => ?_⟩
  · exact (withBacklog_eq_ok_iff .warn firsts _).2 ⟨known, (nomatch ·), rfl⟩
  · exact (withBacklog_eq_ok_iff .warn seconds _).2 ⟨knownToo, (nomatch ·), rfl⟩
  · rw [resolve_backlogTable, resolve_backlogTable]
    congr 1
    refine findSome?_eq_of_order same.keys fun one oneMember other otherMember byOne byOther => ?_
    exact idxOf_le_of_sameChoices same oneMember otherMember byOne byOther

theorem withBacklog_resolve_eq_of_sameChoices_wallet :
    let firsts := ["wallet", "withdraw-choose-payment-method", "withdraw", "wallet"]
    let seconds := ["withdraw-choose-payment-method", "wallet", "withdraw"]
    (∀ key ∈ firsts, Known key) ∧ SameChoices firsts seconds ∧
      ∃ first second, withBacklog .warn firsts = .ok first ∧
        withBacklog .warn seconds = .ok second ∧
          ∀ path, first.resolve path = second.resolve path := by
  intro firsts seconds
  have known : ∀ key ∈ firsts, Known key := by decide +kernel
  have same : SameChoices firsts seconds := by
    refine ⟨fun key => by simp only [firsts, seconds, List.mem_cons]; tauto, ?_⟩
    intro general special generalizes _ _
    simp only [Generalizes, List.mem_cons, Prod.mk.injEq, List.not_mem_nil, or_false]
      at generalizes
    rcases generalizes with ⟨rfl, rfl⟩ | ⟨rfl, rfl⟩ <;> decide
  exact ⟨known, same, withBacklog_resolve_eq_of_sameChoices known same⟩

end Wayfinder.RouteTable
