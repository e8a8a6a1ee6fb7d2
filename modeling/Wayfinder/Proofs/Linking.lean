/-
This file proves that reading a link and writing a location are inverse to each other where they
can be. Writing what was read gives the link back, trimmed and with a slash in front if it lacked
one. Reading what was written gives the location back exactly when the location is well formed:
its parts start with their marks, no part holds a mark at which it would be cut, and there is no
blank character at the end to be trimmed.
-/
import Wayfinder.Location
import Wayfinder.Proofs.Path
import Wayfinder.Proofs.Trimming

namespace Wayfinder.Location

/-! ### Cutting at a mark -/

/-- What can come after a cut: nothing, or characters that start with the mark. -/
def StartsAt (mark : Char) (characters : List Char) : Prop :=
  characters = [] ∨ characters.head? = some mark

theorem not_mem_takeWhile (mark : Char) (characters : List Char) :
    mark ∉ characters.takeWhile (· != mark) := by
  intro member
  have different := List.mem_takeWhile_imp member
  rw [bne_self_eq_false] at different
  cases different

theorem dropWhile_startsAt (mark : Char) (characters : List Char) :
    StartsAt mark (characters.dropWhile (· != mark)) := by
  induction characters with
  | nil => exact Or.inl rfl
  | cons first rest inductionHypothesis =>
    by_cases same : first = mark
    · rw [same, List.dropWhile_cons_of_neg (by simp)]
      exact Or.inr rfl
    · rw [List.dropWhile_cons_of_pos (by simp [same])]
      exact inductionHypothesis

section Cut

variable {mark : Char} {front back : List Char}
variable (free : mark ∉ front) (starts : StartsAt mark back)
include free

theorem bne_of_mem : ∀ character ∈ front, (character != mark) = true :=
  fun _ member => bne_iff_ne.2 fun same => free (same ▸ member)

include starts

/-- What is put together around a mark is cut there again. -/
theorem takeWhile_append : (front ++ back).takeWhile (· != mark) = front := by
  rw [List.takeWhile_append_of_pos (bne_of_mem free)]
  rcases starts with rfl | head
  · exact List.append_nil front
  · obtain ⟨rest, rfl⟩ := List.head?_eq_some_iff.1 head
    rw [List.takeWhile_cons_of_neg (by simp), List.append_nil]

theorem dropWhile_append : (front ++ back).dropWhile (· != mark) = back := by
  rw [List.dropWhile_append_of_pos (bne_of_mem free)]
  rcases starts with rfl | head
  · rfl
  · obtain ⟨rest, rfl⟩ := List.head?_eq_some_iff.1 head
    exact List.dropWhile_cons_of_neg (by simp)

end Cut

/-! ### The slash in front -/

theorem rooted_of_head? {characters : List Char} (head : characters.head? = some '/') :
    rooted characters = characters := by
  obtain ⟨rest, rfl⟩ := List.head?_eq_some_iff.1 head
  rfl

theorem rooted_of_not_head? {characters : List Char} (bare : characters.head? ≠ some '/') :
    rooted characters = '/' :: characters := by
  unfold rooted
  split
  · exact absurd rfl bare
  · rfl

theorem head?_rooted (characters : List Char) : (rooted characters).head? = some '/' := by
  unfold rooted
  split <;> rfl

/-- Only the first part decides about the slash, if the second does not start with one. -/
theorem rooted_append {mark : Char} (notSlash : mark ≠ '/') (front : List Char) {back : List Char}
    (starts : StartsAt mark back) : rooted (front ++ back) = rooted front ++ back := by
  cases front with
  | nil =>
    refine rooted_of_not_head? fun head => ?_
    rcases starts with rfl | marked
    · cases head
    · exact notSlash (Option.some.inj (marked.symm.trans head))
  | cons first rest =>
    by_cases slash : first = '/'
    · rw [slash]
      rfl
    · have bare : ∀ others, (first :: others).head? ≠ some '/' := fun _ head =>
        slash (Option.some.inj head)
      rw [List.cons_append, rooted_of_not_head? (bare _), rooted_of_not_head? (bare _)]
      rfl

theorem rooted_isTrimmed {characters : List Char} (isTrimmed : Text.IsTrimmed characters) :
    Text.IsTrimmed (rooted characters) := by
  by_cases head : characters.head? = some '/'
  · rw [rooted_of_head? head]
    exact isTrimmed
  · rw [rooted_of_not_head? head]
    refine ⟨fun character first => ?_, fun character last => ?_⟩
    · cases first
      decide
    · rw [List.getLast?_cons] at last
      cases ending : characters.getLast? with
      | none =>
        rw [ending] at last
        cases last
        decide
      | some other =>
        rw [ending] at last
        cases last
        exact isTrimmed.ending other ending

theorem not_mem_rooted {mark : Char} {characters : List Char} (notSlash : mark ≠ '/')
    (free : mark ∉ characters) : mark ∉ rooted characters := by
  unfold rooted
  split
  · exact free
  · exact List.not_mem_cons_of_ne_of_not_mem notSlash free

/-! ### Reading -/

/-- The locations that can be read from a link. -/
structure WellFormed (location : Location) : Prop where
  rooted : Path.IsRooted location.pathname
  pathname : '?' ∉ location.pathname.toList ∧ '#' ∉ location.pathname.toList
  search : StartsAt '?' location.search.toList ∧ '#' ∉ location.search.toList
  hash : StartsAt '#' location.hash.toList
  ending : ∀ character, location.href.toList.getLast? = some character →
    Text.isBlank character = false

/-- The characters of a link in front of its hash. -/
def beforeHash (link : String) : List Char :=
  (Text.trimmed link.toList).takeWhile (· != '#')

theorem toList_pathname_parse (link : String) :
    (parse link).pathname.toList = rooted ((beforeHash link).takeWhile (· != '?')) :=
  String.toList_ofList

theorem toList_search_parse (link : String) :
    (parse link).search.toList = (beforeHash link).dropWhile (· != '?') :=
  String.toList_ofList

theorem toList_hash_parse (link : String) :
    (parse link).hash.toList = (Text.trimmed link.toList).dropWhile (· != '#') :=
  String.toList_ofList

theorem not_mem_beforeHash (link : String) : '#' ∉ beforeHash link :=
  not_mem_takeWhile '#' _

/-! ### Writing -/

theorem toList_href (location : Location) :
    location.href.toList =
      location.pathname.toList ++ location.search.toList ++ location.hash.toList := by
  rw [href, String.toList_append, String.toList_append]

/-- What is written for a link that was read: the trimmed link with a slash in front. -/
theorem toList_href_parse (link : String) :
    (parse link).href.toList = rooted (Text.trimmed link.toList) := by
  rw [toList_href, toList_pathname_parse, toList_search_parse, toList_hash_parse,
    ← rooted_append (by decide) _ (dropWhile_startsAt '?' _), List.takeWhile_append_dropWhile,
    ← rooted_append (by decide) _ (dropWhile_startsAt '#' _), beforeHash,
    List.takeWhile_append_dropWhile]

/-- Every location that is read is well formed. -/
theorem parse_wellFormed (link : String) : (parse link).WellFormed where
  rooted := by
    rw [Path.IsRooted, toList_pathname_parse]
    exact head?_rooted _
  pathname := by
    rw [toList_pathname_parse]
    refine ⟨not_mem_rooted (by decide) (not_mem_takeWhile '?' _), not_mem_rooted (by decide) ?_⟩
    exact mt (List.takeWhile_sublist _).mem (not_mem_beforeHash link)
  search := by
    rw [toList_search_parse]
    exact ⟨dropWhile_startsAt '?' _, mt (List.dropWhile_sublist _).mem (not_mem_beforeHash link)⟩
  hash := by
    rw [toList_hash_parse]
    exact dropWhile_startsAt '#' _
  ending := by
    intro character last
    rw [toList_href_parse] at last
    exact (rooted_isTrimmed (Text.trimmed_isTrimmed _)).ending character last

/-- A well-formed location is read back from what is written for it. -/
theorem parse_href {location : Location} (wellFormed : location.WellFormed) :
    parse location.href = location := by
  have trimmed : Text.trimmed location.href.toList = location.href.toList := by
    refine Text.trimmed_of_isTrimmed ⟨fun character first => ?_, wellFormed.ending⟩
    rw [toList_href, List.append_assoc, List.head?_append, wellFormed.rooted] at first
    cases first
    decide
  have noHash : '#' ∉ location.pathname.toList ++ location.search.toList :=
    List.not_mem_append wellFormed.pathname.2 wellFormed.search.2
  rw [parse, trimmed, toList_href, takeWhile_append noHash wellFormed.hash,
    dropWhile_append noHash wellFormed.hash,
    takeWhile_append wellFormed.pathname.1 wellFormed.search.1,
    dropWhile_append wellFormed.pathname.1 wellFormed.search.1,
    rooted_of_head? wellFormed.rooted]
  simp only [String.ofList_toList]

/-- Reading and writing are inverse to each other. What is written for a link that was read is
the trimmed link, with a slash in front if it has none, and is read as the same location; and the
locations that are read back are exactly the well-formed ones. -/
theorem parse_inverse_of_href :
    (∀ link : String,
        (parse link).href =
            (if Path.IsRooted (Text.trim link) then Text.trim link else "/" ++ Text.trim link) ∧
          parse (parse link).href = parse link) ∧
      ∀ location : Location, parse location.href = location ↔ location.WellFormed := by
  refine ⟨fun link => ⟨?_, parse_href (parse_wellFormed link)⟩, fun location => ⟨?_, parse_href⟩⟩
  · refine String.toList_inj.1 ((toList_href_parse link).trans ?_)
    have text : (Text.trim link).toList = Text.trimmed link.toList := String.toList_ofList
    split
    · next rooted =>
      rw [Path.IsRooted, text] at rooted
      rw [text, rooted_of_head? rooted]
    · next bare =>
      rw [Path.IsRooted, text] at bare
      rw [rooted_of_not_head? bare, String.toList_append, text]
      rfl
  · intro same
    rw [← same]
    exact parse_wellFormed location.href

example : parse " market?a?b#c?d#e " = ⟨"/market", "?a?b", "#c?d#e"⟩ := by decide

example : parse (href ⟨"/market", "?a ", ""⟩) = ⟨"/market", "?a", ""⟩ := by decide

end Wayfinder.Location
