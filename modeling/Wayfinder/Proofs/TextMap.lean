/-
This file proves that text maps are finite maps. A name is bound to a text exactly when the pair
is an entry, inserting changes one lookup and no other, and two maps with the same lookups are
the same map: the ascending order leaves one list of entries for each content. Inserting the
entries of a map one after the other makes that map again.
-/
import Wayfinder.Proofs.Trimming
import Wayfinder.TextMap

namespace Wayfinder.TextMap

/-- The names that a map binds, in ascending order. -/
def names (map : TextMap) : List String :=
  map.entries.map (·.1)

/-! ### Lookups and entries -/

theorem lookup_cons_eq_ite (entry : String × String) (rest : List (String × String))
    (name : String) :
    (entry :: rest).lookup name = if name = entry.1 then some entry.2 else rest.lookup name := by
  rw [List.lookup_cons]
  by_cases same : name = entry.1
  · rw [if_pos same, beq_iff_eq.2 same]
  · rw [if_neg same, beq_eq_false_iff_ne.2 same]

theorem lookup_eq_some_iff_mem {entries : List (String × String)}
    (ascending : entries.Pairwise (·.1 < ·.1)) (name text : String) :
    entries.lookup name = some text ↔ (name, text) ∈ entries := by
  induction entries with
  | nil => simp only [List.lookup_nil, reduceCtorEq, List.not_mem_nil]
  | cons entry rest inductionHypothesis =>
    obtain ⟨below, restAscending⟩ := List.pairwise_cons.1 ascending
    rw [lookup_cons_eq_ite, List.mem_cons]
    by_cases same : name = entry.1
    · rw [if_pos same, Option.some_inj]
      constructor
      · rintro rfl
        exact Or.inl (Prod.ext same rfl)
      · rintro (here | later)
        · rw [← here]
        · exact absurd (same ▸ below _ later) (String.lt_irrefl _)
    · rw [if_neg same, inductionHypothesis restAscending]
      exact ⟨Or.inr, fun member => member.resolve_left fun here => same (congrArg Prod.fst here)⟩

/-- A name is bound to a text exactly when the pair is an entry. -/
theorem get?_eq_some_iff (map : TextMap) (name text : String) :
    map.get? name = some text ↔ (name, text) ∈ map.entries :=
  lookup_eq_some_iff_mem map.ascending name text

theorem mem_names_iff (map : TextMap) (name : String) :
    name ∈ map.names ↔ ∃ text, map.get? name = some text := by
  simp only [names, List.mem_map, get?_eq_some_iff]
  constructor
  · rintro ⟨⟨name, text⟩, member, rfl⟩
    exact ⟨text, member⟩
  · rintro ⟨text, member⟩
    exact ⟨(name, text), member, rfl⟩

theorem get?_eq_none_iff (map : TextMap) (name : String) :
    map.get? name = none ↔ name ∉ map.names := by
  rw [mem_names_iff, Option.eq_none_iff_forall_ne_some, not_exists]

/-- What is found for a name, unless it is blank, is its text if that has a character that is not
blank. -/
theorem nonBlank?_eq_some_iff (map : TextMap) (name text : String) :
    map.nonBlank? name = some text ↔
      map.get? name = some text ∧ ∃ character ∈ text.toList, Text.isBlank character = false := by
  rw [nonBlank?, Option.filter_eq_some_iff, Bool.not_eq_true', Bool.eq_false_iff, Ne,
    Text.isEmpty_trim_iff]
  simp only [not_forall, Bool.not_eq_true, exists_prop]

/-! ### Insertion -/

theorem lookup_insertEntry (name text other : String) (entries : List (String × String)) :
    (insertEntry name text entries).lookup other =
      if other = name then some text else entries.lookup other := by
  induction entries with
  | nil => rw [insertEntry, lookup_cons_eq_ite]
  | cons entry rest inductionHypothesis =>
    unfold insertEntry
    split
    · rw [lookup_cons_eq_ite]
    · split
      · next same =>
        rw [lookup_cons_eq_ite, lookup_cons_eq_ite entry, ← same]
        split <;> rfl
      · next different =>
        rw [lookup_cons_eq_ite, lookup_cons_eq_ite entry, inductionHypothesis]
        by_cases here : other = entry.1
        · rw [if_pos here, if_pos here, if_neg (here ▸ Ne.symm different)]
        · rw [if_neg here, if_neg here]

/-- Inserting binds its name and leaves every other lookup as it was. -/
theorem get?_insert (map : TextMap) (name text other : String) :
    (map.insert name text).get? other = if other = name then some text else map.get? other :=
  lookup_insertEntry name text other map.entries

theorem mem_names_insert_iff (map : TextMap) (name text other : String) :
    other ∈ (map.insert name text).names ↔ other = name ∨ other ∈ map.names := by
  rw [mem_names_iff, mem_names_iff, get?_insert]
  by_cases same : other = name
  · simp [same]
  · simp [same]

theorem get?_ofList_singleton (name text other : String) :
    (ofList [(name, text)]).get? other = if other = name then some text else none :=
  get?_insert empty name text other

/-! ### Extensionality -/

theorem names_nodup (map : TextMap) : map.names.Nodup :=
  List.pairwise_map.2 (map.ascending.imp String.ne_of_lt)

theorem entries_nodup (map : TextMap) : map.entries.Nodup :=
  List.Pairwise.of_map (·.1) (fun _ _ => mt (congrArg Prod.fst)) map.names_nodup

theorem ext_entries {first second : TextMap} (same : first.entries = second.entries) :
    first = second := by
  cases first
  cases second
  cases same
  rfl

/-- Maps with the same lookups are equal. -/
theorem ext_get? {first second : TextMap}
    (same : ∀ name, first.get? name = second.get? name) : first = second := by
  refine ext_entries (List.Perm.eq_of_pairwise ?_ first.ascending second.ascending ?_)
  · intro left right _ _ before after
    exact absurd (String.lt_trans before after) (String.lt_irrefl _)
  · refine (List.perm_ext_iff_of_nodup first.entries_nodup second.entries_nodup).2 fun entry => ?_
    rw [← get?_eq_some_iff first, ← get?_eq_some_iff second, same]

/-! ### Restoring -/

theorem insertEntry_of_forall_lt {name text : String} {entries : List (String × String)}
    (below : ∀ entry ∈ entries, entry.1 < name) :
    insertEntry name text entries = entries ++ [(name, text)] := by
  induction entries with
  | nil => rfl
  | cons entry rest inductionHypothesis =>
    obtain ⟨before, others⟩ := List.forall_mem_cons.1 below
    have notBefore : ¬ name < entry.1 := fun after =>
      String.lt_irrefl name (String.lt_trans after before)
    have different : name ≠ entry.1 := fun same => String.lt_irrefl name (same ▸ before)
    rw [insertEntry, if_neg notBefore, if_neg different, inductionHypothesis others,
      List.cons_append]

/-- Inserting entries that come after all of a map adds them at its end. -/
theorem entries_foldl_insert (map : TextMap) {entries : List (String × String)}
    (ascending : (map.entries ++ entries).Pairwise (·.1 < ·.1)) :
    (entries.foldl (fun map entry => map.insert entry.1 entry.2) map).entries =
      map.entries ++ entries := by
  induction entries generalizing map with
  | nil => exact (List.append_nil _).symm
  | cons entry rest inductionHypothesis =>
    have below : ∀ earlier ∈ map.entries, earlier.1 < entry.1 := fun earlier member =>
      (List.pairwise_append.1 ascending).2.2 earlier member entry List.mem_cons_self
    have inserted : (map.insert entry.1 entry.2).entries = map.entries ++ [entry] :=
      insertEntry_of_forall_lt below
    rw [List.append_cons] at ascending
    rw [List.foldl_cons, inductionHypothesis _ (inserted ▸ ascending), inserted,
      ← List.append_cons]

/-- A map is made again from its entries. -/
theorem ofList_entries (map : TextMap) : ofList map.entries = map :=
  ext_entries (entries_foldl_insert empty map.ascending)

end Wayfinder.TextMap
