/-
This file proves the laws of cutting and joining paths. Joining the segments of a rooted path
gives the path back. Cutting what was joined gives the segments back, as long as none of them
contains a slash and they are not a single empty segment: a slash alone is the path without
segments, so that one list is the segments of no path. The two laws together say which lists are
the segments of a rooted path, and that cutting is a bijection onto them.
-/
import Mathlib.Data.Set.Function
import Wayfinder.Path

namespace Wayfinder.Path

/-- A path is rooted when it starts with a slash. -/
def IsRooted (path : String) : Prop :=
  path.toList.head? = some '/'

instance (path : String) : Decidable (IsRooted path) :=
  inferInstanceAs (Decidable (_ = _))

/-- A text that starts with a given character is that character and some rest. -/
theorem exists_append_of_head? {front text : String} {mark : Char} (single : front.toList = [mark])
    (head : text.toList.head? = some mark) : ∃ rest, text = front ++ rest := by
  obtain ⟨rest, characters⟩ := List.head?_eq_some_iff.1 head
  refine ⟨String.ofList rest, String.toList_inj.1 ?_⟩
  rw [characters, String.toList_append, single, String.toList_ofList]
  rfl

theorem isRooted_iff (path : String) : IsRooted path ↔ ∃ rest, path = "/" ++ rest := by
  constructor
  · exact exists_append_of_head? rfl
  · rintro ⟨rest, rfl⟩
    exact congrArg List.head? String.toList_append

/-- The lists of segments that a path can hold. -/
structure AreSegments (segments : List String) : Prop where
  noSlash : ∀ segment ∈ segments, '/' ∉ segment.toList
  notBlank : segments ≠ [""]

/-- The texts that can stand between two slashes: not empty, and without a slash. -/
structure IsSolid (segment : String) : Prop where
  notEmpty : segment ≠ ""
  noSlash : '/' ∉ segment.toList

theorem areSegments_of_isSolid {segments : List String}
    (solid : ∀ segment ∈ segments, IsSolid segment) : AreSegments segments := by
  refine ⟨fun segment member => (solid segment member).noSlash, ?_⟩
  rintro rfl
  exact (solid "" (List.mem_singleton_self "")).notEmpty rfl

/-! ### The pieces of a split list -/

/-- No piece of a split list contains the element it was split at. -/
theorem not_mem_of_mem_splitOn {Element : Type} [DecidableEq Element] (separator : Element)
    (elements piece : List Element) (member : piece ∈ elements.splitOn separator) :
    separator ∉ piece := by
  induction elements generalizing piece with
  | nil =>
    rw [List.splitOn_nil, List.mem_singleton] at member
    rw [member]
    exact List.not_mem_nil
  | cons first rest inductionHypothesis =>
    rw [List.splitOn_cons_eq_if_modifyHead] at member
    split at member
    · rcases List.mem_cons.1 member with rfl | later
      · exact List.not_mem_nil
      · exact inductionHypothesis piece later
    · next different =>
      obtain ⟨head, tail, pieces⟩ := List.exists_cons_of_ne_nil (List.splitOn_ne_nil separator rest)
      rw [pieces, List.modifyHead_cons] at member
      rw [pieces] at inductionHypothesis
      rcases List.mem_cons.1 member with rfl | later
      · intro inside
        rcases List.mem_cons.1 inside with same | inHead
        · exact different (beq_iff_eq.2 same.symm)
        · exact inductionHypothesis head List.mem_cons_self inHead
      · exact inductionHypothesis piece (List.mem_cons_of_mem head later)

/-! ### Cutting -/

/-- The segments of a rooted path are those of the characters after its slash. -/
theorem split_of_rooted {path : String} {rest : List Char} (start : path.toList = '/' :: rest) :
    split path = segmentsOf rest := by
  rw [split, start]
  rfl

/-- The segments of a path that is not rooted are those of all its characters. -/
theorem split_of_not_rooted {path : String} (bare : ¬ IsRooted path) :
    split path = segmentsOf path.toList := by
  unfold split
  split
  · next rest start => exact absurd (congrArg List.head? start) bare
  · rfl

/-- A path that is not rooted is cut as the path with a slash in front. -/
theorem split_slash_append {path : String} (bare : ¬ IsRooted path) :
    split ("/" ++ path) = split path := by
  rw [split_of_not_rooted bare]
  exact split_of_rooted String.toList_append

/-- Cutting at slashes always leaves segments that a path can hold. -/
theorem segmentsOf_areSegments (characters : List Char) : AreSegments (segmentsOf characters) := by
  cases characters with
  | nil => exact ⟨fun _ member => absurd member List.not_mem_nil, List.cons_ne_nil "" [] |>.symm⟩
  | cons first rest =>
    refine ⟨fun segment member => ?_, fun blank => ?_⟩
    · obtain ⟨piece, pieceMember, rfl⟩ := List.mem_map.1 member
      rw [String.toList_ofList]
      exact not_mem_of_mem_splitOn '/' (first :: rest) piece pieceMember
    · obtain ⟨piece, single, empty⟩ := List.map_eq_singleton_iff.1 blank
      have joined : ['/'].intercalate ((first :: rest).splitOn '/') = first :: rest :=
        List.intercalate_splitOn '/'
      rw [single, List.intercalate_singleton, String.ofList_eq_empty_iff.1 empty] at joined
      exact List.cons_ne_nil first rest joined.symm

theorem split_areSegments (path : String) : AreSegments (split path) := by
  unfold split
  split <;> exact segmentsOf_areSegments _

/-! ### Joining -/

theorem toList_join (segments : List String) :
    (join segments).toList = '/' :: ['/'].intercalate (segments.map String.toList) := by
  rw [join, String.toList_append, String.toList_intercalate]
  rfl

theorem join_isRooted (segments : List String) : IsRooted (join segments) :=
  congrArg List.head? (toList_join segments)

theorem join_singleton (segment : String) : join [segment] = "/" ++ segment := by
  rw [join, String.intercalate_singleton]

theorem join_cons_cons (first second : String) (rest : List String) :
    join (first :: second :: rest) = "/" ++ first ++ join (second :: rest) := by
  rw [join, join, String.intercalate_cons_cons, String.append_assoc, String.append_assoc]

/-- Joining what was cut gives a rooted path back. -/
theorem join_split {path : String} (rooted : IsRooted path) : join (split path) = path := by
  obtain ⟨rest, start⟩ := List.head?_eq_some_iff.1 rooted
  refine String.toList_inj.1 ?_
  rw [toList_join, split_of_rooted start, start]
  refine congrArg (List.cons '/') ?_
  cases rest with
  | nil => rfl
  | cons first others =>
    have pieces : (segmentsOf (first :: others)).map String.toList =
        (first :: others).splitOn '/' := by
      show (((first :: others).splitOn '/').map String.ofList).map String.toList = _
      rw [List.map_map, show String.toList ∘ String.ofList = id from
        funext fun _ => String.toList_ofList, List.map_id]
    rw [pieces, List.intercalate_splitOn]

/-- Cutting what was joined gives the segments back. -/
theorem split_join {segments : List String} (valid : AreSegments segments) :
    split (join segments) = segments := by
  rw [split_of_rooted (toList_join segments)]
  cases segments with
  | nil => rfl
  | cons segment rest =>
    have cut : (['/'].intercalate ((segment :: rest).map String.toList)).splitOn '/' =
        (segment :: rest).map String.toList := by
      refine List.splitOn_intercalate '/' ?_ (List.cons_ne_nil _ _)
      intro characters member
      obtain ⟨other, otherMember, rfl⟩ := List.mem_map.1 member
      exact valid.noSlash other otherMember
    have texts : ((segment :: rest).map String.toList).map String.ofList = segment :: rest := by
      rw [List.map_map, show String.ofList ∘ String.toList = id from
        funext fun _ => String.ofList_toList, List.map_id]
    unfold segmentsOf
    split
    · next empty =>
      -- Only a single empty segment joins to no characters at all.
      rw [empty, List.splitOn_nil] at cut
      rw [← cut] at texts
      exact absurd texts.symm valid.notBlank
    · rw [cut, texts]

/-- Joining what was cut from any path gives the path back, with a slash in front of it if it had
none. -/
theorem join_split_eq_ite (path : String) :
    join (split path) = if IsRooted path then path else "/" ++ path := by
  split
  · next rooted => exact join_split rooted
  · next bare =>
    rw [← split_slash_append bare]
    exact join_split ((isRooted_iff _).2 ⟨path, rfl⟩)

/-- The lists that a path can hold are those that are given back when they are joined and cut. -/
theorem split_join_iff (segments : List String) :
    split (join segments) = segments ↔ AreSegments segments :=
  ⟨fun same => same ▸ split_areSegments (join segments), split_join⟩

/-- The segments of a rooted path are the one list of segments that joins to it. -/
theorem split_eq_iff {path : String} (rooted : IsRooted path) (segments : List String) :
    split path = segments ↔ AreSegments segments ∧ path = join segments := by
  constructor
  · rintro rfl
    exact ⟨split_areSegments path, (join_split rooted).symm⟩
  · rintro ⟨valid, rfl⟩
    exact split_join valid

/-- Cutting is a bijection from the rooted paths to the lists of segments that a path can hold: any
number of segments without a slash, but not a single empty one. Joining is its inverse, from which
a path without a slash in front gets one; and no path is cut into anything else. -/
theorem split_bijOn_rooted :
    Set.BijOn split {path | IsRooted path} {segments | AreSegments segments} ∧
      (∀ path, join (split path) = if IsRooted path then path else "/" ++ path) ∧
        (∀ segments, split (join segments) = segments ↔ AreSegments segments) ∧
          ∀ path, AreSegments (split path) := by
  refine ⟨?_, join_split_eq_ite, split_join_iff, split_areSegments⟩
  have inverse : Set.InvOn join split {path | IsRooted path} {segments | AreSegments segments} :=
    ⟨fun _ rooted => join_split rooted, fun _ valid => split_join valid⟩
  exact inverse.bijOn (fun path _ => split_areSegments path)
    (fun segments _ => join_isRooted segments)

-- The single empty segment is joined to the slash alone, which has no segments.
example : split (join [""]) = [] ∧ split "/wallet/" = ["wallet", ""] := by decide

end Wayfinder.Path
