/-
This file says which parts of a link decide what it shows. Two links name the same location when
they are the same after trimming and with a slash in front; so a missing slash makes no
difference. What a shell renders depends on the pathname alone, and the pathname ends at the first
question mark or number sign; so nothing that follows one of them makes a difference either, not
even the blank characters that are trimmed at the end of the link.
-/
import Wayfinder.Proofs.Linking
import Wayfinder.Shell

namespace Wayfinder

namespace Location

/-! ### The same location -/

/-- Two links name the same location exactly when they are the same after trimming and with a
slash in front. -/
theorem parse_eq_parse_iff (first second : String) :
    parse first = parse second ↔
      rooted (Text.trimmed first.toList) = rooted (Text.trimmed second.toList) := by
  rw [← toList_href_parse, ← toList_href_parse, String.toList_inj]
  refine ⟨congrArg href, fun same => ?_⟩
  rw [← parse_href (parse_wellFormed first), same, parse_href (parse_wellFormed second)]

/-- A link without a slash in front names the same location as with it. -/
theorem parse_slash_append {link : String}
    (bare : ∀ first, link.toList.head? = some first → first ≠ '/' ∧ Text.isBlank first = false) :
    parse ("/" ++ link) = parse link := by
  have whole : ("/" ++ link).toList = ['/'] ++ link.toList := String.toList_append
  rw [parse_eq_parse_iff, whole]
  cases start : link.toList with
  | nil => rfl
  | cons first rest =>
    obtain ⟨notSlash, notBlank⟩ := bare first (congrArg List.head? start)
    have starts : Text.StartsWord (first :: rest) := ⟨first, rfl, notBlank⟩
    have head : (Text.trimmed (first :: rest)).head? = some first := by
      rw [Text.trimmed, Text.dropWhile_of_startsWord starts, Text.head?_dropTrailingBlanks starts]
      rfl
    rw [Text.trimmed_append _ starts, rooted_of_not_head? (head.trans_ne ?_), Text.trimmed,
      Text.dropWhile_of_startsWord starts]
    · rfl
    · exact fun slash => notSlash (Option.some.inj slash)

/-! ### The pathname -/

/-- The characters of a link up to its first mark. -/
def beforeMarks (characters : List Char) : List Char :=
  (characters.takeWhile (· != '#')).takeWhile (· != '?')

theorem toList_pathname_eq (link : String) :
    (parse link).pathname.toList = rooted (beforeMarks (Text.trimmed link.toList)) :=
  toList_pathname_parse link

/-- What comes in front of the first mark is found again. -/
theorem beforeMarks_append {front back : List Char} (noSearch : '?' ∉ front) (noHash : '#' ∉ front)
    (marked : StartsAt '?' back ∨ StartsAt '#' back) : beforeMarks (front ++ back) = front := by
  have cut : beforeMarks (front ++ back) =
      (front ++ back.takeWhile (· != '#')).takeWhile (· != '?') := by
    rw [beforeMarks, List.takeWhile_append_of_pos (bne_of_mem noHash)]
  rw [cut]
  refine takeWhile_append noSearch ?_
  rcases marked with (rfl | search) | (rfl | hash)
  · exact Or.inl rfl
  · obtain ⟨rest, rfl⟩ := List.head?_eq_some_iff.1 search
    exact Or.inr (congrArg List.head? (List.takeWhile_cons_of_pos (by decide)))
  · exact Or.inl rfl
  · obtain ⟨rest, rfl⟩ := List.head?_eq_some_iff.1 hash
    exact Or.inl (List.takeWhile_cons_of_neg (by decide))

/-- Nothing from the first mark on changes the pathname of a link that has no blank character in
front of the mark. -/
theorem pathname_parse_append {path suffix : String} (noSearch : '?' ∉ path.toList)
    (noHash : '#' ∉ path.toList)
    (ending : ∀ last, path.toList.getLast? = some last → Text.isBlank last = false)
    (marked : suffix = "" ∨ suffix.toList.head? = some '?' ∨ suffix.toList.head? = some '#') :
    (parse (path ++ suffix)).pathname = (parse path).pathname := by
  rcases marked with rfl | marked
  · rw [String.append_empty]
  · have starts : Text.StartsWord suffix.toList := by
      rcases marked with search | hash
      · exact ⟨'?', search, by decide⟩
      · exact ⟨'#', hash, by decide⟩
    have kept : (Text.dropTrailingBlanks suffix.toList).head? = suffix.toList.head? :=
      Text.head?_dropTrailingBlanks starts
    -- Blank characters can be dropped behind the mark, but never the mark itself.
    have back : StartsAt '?' (Text.dropTrailingBlanks suffix.toList) ∨
        StartsAt '#' (Text.dropTrailingBlanks suffix.toList) :=
      marked.imp (fun search => Or.inr (kept.trans search)) fun hash => Or.inr (kept.trans hash)
    have inPath : path.toList.dropWhile Text.isBlank ⊆ path.toList :=
      (List.dropWhile_suffix Text.isBlank).subset
    have front : ∀ rest, StartsAt '?' rest ∨ StartsAt '#' rest →
        beforeMarks (path.toList.dropWhile Text.isBlank ++ rest) =
          path.toList.dropWhile Text.isBlank :=
      fun _ => beforeMarks_append (mt (inPath ·) noSearch) (mt (inPath ·) noHash)
    have alone := front [] (Or.inl (Or.inl rfl))
    rw [List.append_nil] at alone
    refine String.toList_inj.1 ?_
    rw [toList_pathname_eq, toList_pathname_eq, String.toList_append, Text.trimmed_append _ starts,
      Text.trimmed_of_ending ending, front _ back, alone]

end Location

namespace Shell

theorem render_eq_of_pathname {first second : String}
    (same : (Location.parse first).pathname = (Location.parse second).pathname) (shell : Shell) :
    shell.render first = shell.render second := by
  rw [render, render, same]

/-- Neither what follows the pathname of a link nor a missing slash in front of it changes what a
shell renders. -/
theorem render_ignores_marks (shell : Shell) :
    (∀ path suffix : String, '?' ∉ path.toList → '#' ∉ path.toList →
        (∀ last, path.toList.getLast? = some last → Text.isBlank last = false) →
        (suffix = "" ∨ suffix.toList.head? = some '?' ∨ suffix.toList.head? = some '#') →
          shell.render (path ++ suffix) = shell.render path) ∧
      ∀ link : String,
        (∀ first, link.toList.head? = some first → first ≠ '/' ∧ Text.isBlank first = false) →
          Location.parse ("/" ++ link) = Location.parse link ∧
            shell.render ("/" ++ link) = shell.render link := by
  refine ⟨fun path suffix noSearch noHash ending marked => ?_, fun link bare => ?_⟩
  · exact render_eq_of_pathname
      (Location.pathname_parse_append noSearch noHash ending marked) shell
  · have same := Location.parse_slash_append bare
    exact ⟨same, render_eq_of_pathname (congrArg Location.pathname same) shell⟩

theorem render_ignores_marks_padded :
    ∃ shell, standard {} { stamp := fun _ => default } = .ok shell ∧
      shell.render (" /market" ++ "#top?tab=/ ") = shell.render " /market" ∧
        Location.parse ("/" ++ "market ") = Location.parse "market " ∧
          shell.render ("/" ++ "market ") = shell.render "market " := by
  obtain ⟨shell, built⟩ : ∃ shell, standard {} { stamp := fun _ => default } = .ok shell :=
    ⟨_, rfl⟩
  refine ⟨shell, built, (render_ignores_marks shell).1 _ _ ?_ ?_ ?_ (Or.inr (Or.inr ?_)),
    (render_ignores_marks shell).2 _ ?_⟩
  · decide
  · decide
  · rintro last same
    cases same
    decide
  · decide
  · rintro first same
    cases same
    decide

end Shell

end Wayfinder
