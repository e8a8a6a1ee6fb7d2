/-
This file says what a map holds after any sequence of insertions into the empty one. It lists every
name that was inserted, once, with the text that the name was given last, and the names stand in the
order of their bytes; what can be asked about a name agrees with the list. Nothing else of the
sequence is left: two sequences lead to the same map, and to the same JSON, exactly when they give
each name the same text last.
-/
import Mathlib.Data.Finset.Card
import Wayfinder.Proofs.ByteOrder
import Wayfinder.Proofs.Restoring

namespace Wayfinder.TextMap

/-! ### The last text of a name -/

/-- Among pairs in the order of their insertion, a text is the last that a name is given. -/
def IsLast (pairs : List (String × String)) (name text : String) : Prop :=
  ∃ earlier later, pairs = earlier ++ (name, text) :: later ∧ ∀ other ∈ later, other.1 ≠ name

theorem not_isLast_nil (name text : String) : ¬ IsLast [] name text := by
  rintro ⟨earlier, later, whole, _⟩
  exact List.append_ne_nil_of_right_ne_nil earlier (List.cons_ne_nil _ later) whole.symm

/-- One more pair gives its name its text, and leaves the last text of every other name. -/
theorem isLast_concat_iff (pairs : List (String × String)) (pair : String × String)
    (name text : String) :
    IsLast (pairs ++ [pair]) name text ↔
      if name = pair.1 then text = pair.2 else IsLast pairs name text := by
  constructor
  · rintro ⟨earlier, later, whole, others⟩
    -- The pair at the end is the one that gave the text, or one of those that came after it.
    rcases List.eq_nil_or_concat' later with rfl | ⟨between, last, rfl⟩
    · obtain ⟨rfl, same⟩ := List.append_inj' whole rfl
      cases List.singleton_inj.1 same
      rw [if_pos rfl]
    · rw [← List.cons_append, ← List.append_assoc] at whole
      obtain ⟨rfl, same⟩ := List.append_inj' whole rfl
      cases List.singleton_inj.1 same
      obtain ⟨inner, ends⟩ := List.forall_mem_append.1 others
      have different : pair.1 ≠ name := ends pair (List.mem_singleton_self pair)
      rw [if_neg (Ne.symm different)]
      exact ⟨earlier, between, rfl, inner⟩
  · intro last
    split at last
    · next same =>
      rw [same, last]
      exact ⟨pairs, [], rfl, List.forall_mem_nil _⟩
    · next different =>
      obtain ⟨earlier, later, rfl, others⟩ := last
      refine ⟨earlier, later ++ [pair], by rw [List.append_assoc, List.cons_append], ?_⟩
      rw [List.forall_mem_append, List.forall_mem_singleton]
      exact ⟨others, Ne.symm different⟩

theorem ofList_concat (pairs : List (String × String)) (pair : String × String) :
    ofList (pairs ++ [pair]) = (ofList pairs).insert pair.1 pair.2 :=
  List.foldl_append

/-- Inserting pairs one after the other leaves each name with the text it was given last. -/
theorem get?_ofList_eq_some_iff (pairs : List (String × String)) (name text : String) :
    (ofList pairs).get? name = some text ↔ IsLast pairs name text := by
  induction pairs using List.reverseRecOn with
  | nil => exact iff_of_false nofun (not_isLast_nil name text)
  | append_singleton pairs pair inductionHypothesis =>
    rw [ofList_concat, get?_insert, isLast_concat_iff]
    split
    · rw [Option.some_inj, eq_comm]
    · exact inductionHypothesis

theorem mem_names_ofList_iff (pairs : List (String × String)) (name : String) :
    name ∈ (ofList pairs).names ↔ name ∈ pairs.map (·.1) := by
  induction pairs using List.reverseRecOn with
  | nil => rfl
  | append_singleton pairs pair inductionHypothesis =>
    rw [ofList_concat, mem_names_insert_iff, inductionHypothesis, List.map_append, List.mem_append,
      or_comm, List.map_singleton, List.mem_singleton]

/-! ### What is listed -/

theorem names_ascending (map : TextMap) :
    map.names.Pairwise fun name later => List.Lex (· < ·) (Text.bytes name) (Text.bytes later) :=
  List.pairwise_map.2 (map.ascending.imp (Text.bytes_lex_iff _ _).2)

/-- The size is the number of the names that were inserted. -/
theorem size_ofList (pairs : List (String × String)) :
    (ofList pairs).size = (pairs.map (·.1)).toFinset.card := by
  have counted : (ofList pairs).names.toFinset = (pairs.map (·.1)).toFinset := by
    refine Finset.ext fun name => ?_
    rw [List.mem_toFinset, List.mem_toFinset, mem_names_ofList_iff]
  rw [← counted, List.toFinset_card_of_nodup (names_nodup _), names, List.length_map, size]

/-- A map lists what some pairs leave when they are inserted one after the other: every name once,
in the order of the bytes, with its last text; and every question to the map is answered from that
list. -/
structure Lists (map : TextMap) (pairs : List (String × String)) : Prop where
  named : ∀ name, name ∈ map.names ↔ name ∈ pairs.map (·.1)
  once : map.names.Nodup
  ascending :
    map.names.Pairwise fun name later => List.Lex (· < ·) (Text.bytes name) (Text.bytes later)
  last : ∀ name text, (name, text) ∈ map.entries ↔ IsLast pairs name text
  found : ∀ name text, map.get? name = some text ↔ (name, text) ∈ map.entries
  missing : ∀ name, map.get? name = none ↔ name ∉ map.names
  worded : ∀ name text, map.nonBlank? name = some text ↔
    map.get? name = some text ∧ ∃ character ∈ text.toList, Text.isBlank character = false
  size : map.size = map.entries.length
  counted : map.size = (pairs.map (·.1)).toFinset.card

theorem ofList_lists (pairs : List (String × String)) : (ofList pairs).Lists pairs where
  named := mem_names_ofList_iff pairs
  once := names_nodup _
  ascending := names_ascending _
  last name text := by rw [← get?_eq_some_iff, get?_ofList_eq_some_iff]
  found := get?_eq_some_iff _
  missing := get?_eq_none_iff _
  worded := nonBlank?_eq_some_iff _
  size := rfl
  counted := size_ofList pairs

/-! ### One map for each content -/

/-- Sequences of pairs lead to the same map exactly when they leave the same last texts. -/
theorem ofList_eq_iff (first second : List (String × String)) :
    ofList first = ofList second ↔
      ∀ name text, IsLast first name text ↔ IsLast second name text := by
  constructor
  · intro same name text
    rw [← get?_ofList_eq_some_iff, same, get?_ofList_eq_some_iff]
  · intro same
    refine ext_get? fun name => Option.ext fun text => ?_
    rw [get?_ofList_eq_some_iff, get?_ofList_eq_some_iff, same]

/-- Different maps have different JSON. -/
theorem print_eq_iff (first second : TextMap) :
    Json.print first.toDatum = Json.print second.toDatum ↔ first = second := by
  constructor
  · intro same
    have data : first.toDatum = second.toDatum := Json.eq_of_print_eq
      first.toDatum_numberless.isJson second.toDatum_numberless.isJson same
    have restored : some first = some second := by
      rw [← textMap?_toDatum, ← textMap?_toDatum, data]
    exact Option.some.inj restored
  · rintro rfl
    rfl

/-- Maps are finite maps in one order. Whatever pairs are inserted into the empty map, it lists each
of their names once, in the order of the bytes and with its last text, and answers from that list.
The last texts are all that counts: sequences of pairs that agree on them, and no others, lead to
the same map and to the same JSON. -/
theorem inserted_canonically :
    (∀ pairs, (ofList pairs).Lists pairs) ∧
      ∀ first second,
        (ofList first = ofList second ↔
            ∀ name text, IsLast first name text ↔ IsLast second name text) ∧
          (Json.print (ofList first).toDatum = Json.print (ofList second).toDatum ↔
            ∀ name text, IsLast first name text ↔ IsLast second name text) := by
  refine ⟨ofList_lists, fun first second => ⟨ofList_eq_iff first second, ?_⟩⟩
  rw [print_eq_iff, ofList_eq_iff]

-- A name that is inserted again keeps its place, and letters with marks come after the plain ones.
example :
    (ofList [("é", "1"), ("z", "2"), ("a", "3"), ("z", "4")]).entries =
      [("a", "3"), ("z", "4"), ("é", "1")] := by
  decide

end Wayfinder.TextMap
