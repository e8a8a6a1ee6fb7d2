/-
This file defines finite maps from names to texts. A map is the list of its entries in ascending
order of the names, with no name twice, so that two maps with the same lookups are the same
value and are written the same way.
-/
import Wayfinder.Text.Blank

namespace Wayfinder

/-- A finite map from names to texts, as its entries in ascending order of the names. -/
structure TextMap where
  entries : List (String × String)
  ascending : entries.Pairwise (·.1 < ·.1) := by exact List.Pairwise.nil
  deriving DecidableEq, Repr

namespace TextMap

/-- The map without entries. -/
def empty : TextMap where
  entries := []

instance : Inhabited TextMap := ⟨empty⟩

/-- Put a name and its text in their place among ascending entries, over any older text of the
name. -/
def insertEntry (name text : String) : List (String × String) → List (String × String)
  | [] => [(name, text)]
  | entry :: rest =>
    if name < entry.1 then (name, text) :: entry :: rest
    else if name = entry.1 then (name, text) :: rest
    else entry :: insertEntry name text rest

theorem mem_insertEntry {name text : String} {entries : List (String × String)}
    {entry : String × String} (member : entry ∈ insertEntry name text entries) :
    entry = (name, text) ∨ entry ∈ entries := by
  induction entries with
  | nil => exact Or.inl (List.mem_singleton.1 member)
  | cons head rest inductionHypothesis =>
    unfold insertEntry at member
    split at member
    · exact List.mem_cons.1 member
    · split at member
      · exact (List.mem_cons.1 member).imp_right (List.mem_cons_of_mem head)
      · rcases List.mem_cons.1 member with here | there
        · exact Or.inr (here ▸ List.mem_cons_self)
        · exact (inductionHypothesis there).imp_right (List.mem_cons_of_mem head)

theorem insertEntry_ascending (name text : String) {entries : List (String × String)}
    (ascending : entries.Pairwise (·.1 < ·.1)) :
    (insertEntry name text entries).Pairwise (·.1 < ·.1) := by
  induction entries with
  | nil => exact List.pairwise_singleton _ _
  | cons head rest inductionHypothesis =>
    obtain ⟨below, restAscending⟩ := List.pairwise_cons.1 ascending
    unfold insertEntry
    split
    · next before =>
      refine List.pairwise_cons.2 ⟨fun entry member => ?_, ascending⟩
      rcases List.mem_cons.1 member with rfl | later
      · exact before
      · exact String.lt_trans before (below entry later)
    · next notBefore =>
      split
      · next same =>
        exact List.pairwise_cons.2 ⟨fun entry member => same ▸ below entry member, restAscending⟩
      · next different =>
        refine List.pairwise_cons.2 ⟨fun entry member => ?_, inductionHypothesis restAscending⟩
        rcases mem_insertEntry member with rfl | old
        · exact Decidable.byContradiction fun notAfter => different
            (String.le_antisymm (String.not_lt.1 notAfter) (String.not_lt.1 notBefore))
        · exact below entry old

/-- Bind a name to a text; an older text of the name is replaced. -/
def insert (map : TextMap) (name text : String) : TextMap where
  entries := insertEntry name text map.entries
  ascending := insertEntry_ascending name text map.ascending

/-- The text of a name. -/
def get? (map : TextMap) (name : String) : Option String :=
  map.entries.lookup name

/-- The text of a name, unless it is missing or blank. -/
def nonBlank? (map : TextMap) (name : String) : Option String :=
  (map.get? name).filter fun text => !(Text.trim text).isEmpty

/-- The number of names. -/
def size (map : TextMap) : Nat :=
  map.entries.length

/-- Whether there are no names. -/
def isEmpty (map : TextMap) : Bool :=
  map.entries.isEmpty

/-- The map that binds each name of a list to the last text the list gives it. -/
def ofList (entries : List (String × String)) : TextMap :=
  entries.foldl (fun map entry => map.insert entry.1 entry.2) empty

end TextMap

end Wayfinder
