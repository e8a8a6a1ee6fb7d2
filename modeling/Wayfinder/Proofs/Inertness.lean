/-
This file proves that inert lines never influence the rest of a session. A line is inert when it is
blank, when it only asks for the current screen or the routes, or when it is no command: each
leaves the shell as it was and stops nothing. To say which answers are left when inert lines are
taken out again, a session is traced: each line that is read is kept with the answers to it. The
trace of the lines that were there before is then the trace of all lines without the inserted ones.
-/
import Wayfinder.Proofs.Padding

namespace Wayfinder

namespace Shell

theorem execute_current_snd (shell : Shell) : (shell.execute .current).2 = shell := by
  rw [execute]
  cases shell.current? <;> rfl

theorem execute_routes_snd (shell : Shell) : (shell.execute .routes).2 = shell := rfl

end Shell

namespace Session

open Text (IsPadding)

/-! ### Inert lines -/

/-- A line is inert when it is blank, asks for the current screen or the routes, or is no
command. -/
def IsInert (line : List UInt8) : Prop :=
  ∃ text, decodeLine line = some text ∧ (IsPadding text ∨
    Command.parse text = .ok (some .current) ∨ Command.parse text = .ok (some .routes) ∨
      ∃ error, Command.parse text = .error error)

section Inert

variable {line : List UInt8} (inert : IsInert line)

include inert

theorem IsInert.passes : Passes line := by
  obtain ⟨text, decoded, kind⟩ := inert
  refine ⟨text, decoded, fun quits => ?_⟩
  rcases kind with blank | current | routes | ⟨error, refused⟩
  · cases ((Command.parse_eq_none_iff text).2 blank).symm.trans quits
  · cases current.symm.trans quits
  · cases routes.symm.trans quits
  · cases refused.symm.trans quits

/-- An inert line leaves the shell as it was. -/
theorem IsInert.shell_eq (shell : Shell) : (runLines shell [line]).shell = shell := by
  obtain ⟨text, decoded, kind⟩ := inert
  rcases kind with blank | current | routes | ⟨error, refused⟩
  · rw [runLines_of_blank decoded ((Command.parse_eq_none_iff text).2 blank)]
    rfl
  · rw [runLines, resume_of_goesOn (turn_of_command decoded current Command.noConfusion _)]
    exact shell.execute_current_snd
  · rw [runLines, resume_of_goesOn (turn_of_command decoded routes Command.noConfusion _)]
    exact shell.execute_routes_snd
  · rw [runLines, resume_of_goesOn (turn_of_error decoded refused _)]
    rfl

end Inert

/-! ### Answers line by line -/

instance (line : List UInt8) : Decidable (Passes line) :=
  decidable_of_iff
    ((decodeLine line).any fun text => decide (Command.parse text ≠ .ok (some .quit))) <| by
      simp only [Option.any_eq_true, decide_eq_true_eq, Passes]

/-- A line of an input, and whether it was inserted into it. -/
structure MarkedLine where
  bytes : List UInt8
  inserted : Bool

/-- The lines that a session reads until one stops it, each with the answers to it. -/
def trace (shell : Shell) : List MarkedLine → List (MarkedLine × List Reply)
  | [] => []
  | line :: rest =>
    if Passes line.bytes then
      let alone := runLines shell [line.bytes]
      (line, alone.replies) :: trace alone.shell rest
    else []

/-- What a session writes for the lines of a trace. -/
def written (answered : List (MarkedLine × List Reply)) : String :=
  String.join (answered.map fun entry => String.join (entry.2.map Reply.line))

/-- A line is blank when it is valid text and all of it is blank. -/
def IsBlankLine (line : List UInt8) : Prop :=
  ∃ text, decodeLine line = some text ∧ IsPadding text

theorem isBlankLine_iff (line : List UInt8) :
    IsBlankLine line ↔ reading line = some (.ok none) := by
  rw [reading, Option.map_eq_some_iff]
  simp only [IsBlankLine, IsPadding, Command.parse_eq_none_iff]

/-- A line that passes is answered once, unless it is blank; then it is not answered. -/
theorem replies_of_passes {line : List UInt8} (passes : Passes line) (shell : Shell) :
    (IsBlankLine line → (runLines shell [line]).replies = []) ∧
      (¬ IsBlankLine line → (runLines shell [line]).replies.length = 1) := by
  rw [isBlankLine_iff]
  rcases passes_cases passes shell with ⟨blank, skipped⟩ | ⟨notBlank, reply, after, answered⟩
  · rw [runLines, resume_of_goesOn (skipped (.start shell) rfl)]
    exact ⟨fun _ => rfl, absurd blank⟩
  · rw [runLines, resume_of_goesOn (answered (.start shell) rfl)]
    exact ⟨fun blank => absurd blank notBlank, fun _ => rfl⟩

theorem trace_cons_of_passes {line : MarkedLine} (passes : Passes line.bytes) (shell : Shell)
    (rest : List MarkedLine) :
    trace shell (line :: rest) =
      (line, (runLines shell [line.bytes]).replies) ::
        trace (runLines shell [line.bytes]).shell rest :=
  if_pos passes

theorem trace_cons_of_not_passes {line : MarkedLine} (stops : ¬ Passes line.bytes) (shell : Shell)
    (rest : List MarkedLine) : trace shell (line :: rest) = [] :=
  if_neg stops

/-- The answers of a session are those to the lines of its trace. -/
theorem replies_runLines (shell : Shell) (lines : List MarkedLine) :
    (runLines shell (lines.map (·.bytes))).replies = (trace shell lines).flatMap Prod.snd := by
  induction lines generalizing shell with
  | nil => rfl
  | cons line rest inductionHypothesis =>
    rw [List.map_cons]
    by_cases passes : Passes line.bytes
    · rw [runLines_cons_of_passes passes, trace_cons_of_passes passes, List.flatMap_cons,
        ← inductionHypothesis]
      rfl
    · rw [runLines_of_not_passes passes, trace_cons_of_not_passes passes]
      rfl

theorem output_runLines (shell : Shell) (lines : List MarkedLine) :
    (runLines shell (lines.map (·.bytes))).output = written (trace shell lines) := by
  rw [(runLines_isTallied shell _).output, replies_runLines, written]
  induction trace shell lines with
  | nil => rfl
  | cons entry rest inductionHypothesis =>
    rw [List.flatMap_cons, List.map_append, String.join_append, inductionHypothesis, List.map_cons,
      String.join_cons]

/-- A session reads up to the first line that does not pass. -/
theorem map_fst_trace (shell : Shell) (lines : List MarkedLine) :
    (trace shell lines).map Prod.fst = lines.takeWhile (Passes ·.bytes) := by
  induction lines generalizing shell with
  | nil => rfl
  | cons line rest inductionHypothesis =>
    by_cases passes : Passes line.bytes
    · rw [trace_cons_of_passes passes, List.map_cons, inductionHypothesis, List.takeWhile_cons,
        if_pos (decide_eq_true passes)]
    · rw [trace_cons_of_not_passes passes, List.takeWhile_cons,
        if_neg (mt of_decide_eq_true passes)]
      rfl

/-- Every line of a trace passes, and is answered as such. -/
theorem replies_of_mem_trace {shell : Shell} {lines : List MarkedLine}
    {entry : MarkedLine × List Reply} (member : entry ∈ trace shell lines) :
    (IsBlankLine entry.1.bytes → entry.2 = []) ∧
      (¬ IsBlankLine entry.1.bytes → entry.2.length = 1) := by
  induction lines generalizing shell with
  | nil => exact absurd member List.not_mem_nil
  | cons line rest inductionHypothesis =>
    by_cases passes : Passes line.bytes
    · rw [trace_cons_of_passes passes] at member
      rcases List.mem_cons.1 member with rfl | later
      · exact replies_of_passes passes shell
      · exact inductionHypothesis later
    · rw [trace_cons_of_not_passes passes] at member
      exact absurd member List.not_mem_nil

/-! ### Inserted lines -/

section Inserted

variable {lines : List MarkedLine}
  (inert : ∀ line ∈ lines, line.inserted = true → IsInert line.bytes)

include inert

/-- Without the inserted lines, a session has the trace without their entries. -/
theorem trace_filter (shell : Shell) :
    trace shell (lines.filter (!·.inserted)) =
      (trace shell lines).filter (!·.1.inserted) := by
  induction lines generalizing shell with
  | nil => rfl
  | cons line rest inductionHypothesis =>
    obtain ⟨inertFirst, inertRest⟩ := List.forall_mem_cons.1 inert
    cases mark : line.inserted with
    | true =>
      have idle := inertFirst mark
      rw [trace_cons_of_passes idle.passes, idle.shell_eq, List.filter_cons_of_neg (by simp [mark]),
        List.filter_cons_of_neg (by simp [mark]), inductionHypothesis inertRest]
    | false =>
      rw [List.filter_cons_of_pos (by simp [mark])]
      by_cases passes : Passes line.bytes
      · rw [trace_cons_of_passes passes, trace_cons_of_passes passes,
          List.filter_cons_of_pos (by simp [mark]), inductionHypothesis inertRest]
      · rw [trace_cons_of_not_passes passes, trace_cons_of_not_passes passes, List.filter_nil]

/-- Without the inserted lines, a session leaves the same shell, and fails or not as with them. -/
theorem runLines_filter (shell : Shell) :
    (runLines shell ((lines.filter (!·.inserted)).map (·.bytes))).shell =
        (runLines shell (lines.map (·.bytes))).shell ∧
      (runLines shell ((lines.filter (!·.inserted)).map (·.bytes))).failed =
        (runLines shell (lines.map (·.bytes))).failed := by
  induction lines generalizing shell with
  | nil => exact ⟨rfl, rfl⟩
  | cons line rest inductionHypothesis =>
    obtain ⟨inertFirst, inertRest⟩ := List.forall_mem_cons.1 inert
    cases mark : line.inserted with
    | true =>
      have idle := inertFirst mark
      rw [List.filter_cons_of_neg (by simp [mark]), List.map_cons,
        runLines_cons_of_passes idle.passes, idle.shell_eq]
      exact inductionHypothesis inertRest shell
    | false =>
      rw [List.filter_cons_of_pos (by simp [mark]), List.map_cons, List.map_cons]
      by_cases passes : Passes line.bytes
      · rw [runLines_cons_of_passes passes shell (List.map _ (rest.filter _)),
          runLines_cons_of_passes passes shell (rest.map _)]
        exact inductionHypothesis inertRest _
      · rw [runLines_of_not_passes passes, runLines_of_not_passes passes]
        exact ⟨rfl, rfl⟩

end Inserted

/-- Inert lines never influence the rest of a session. Take an input, and an input with the same
lines and further ones, all inert, anywhere between them. The session over the latter reads its
lines up to the first that is invalid or quits. Taking the inserted lines out again takes out the
answers to them and nothing else: every other line is answered as before, the shell is the same at
the end, and an inserted line that was read has one answer, or none if it is blank. -/
theorem run_without_inserted (shell : Shell) {lines : List MarkedLine}
    (inert : ∀ line ∈ lines, line.inserted = true → IsInert line.bytes)
    {input edited : List UInt8}
    (original : Session.lines input = (lines.filter (!·.inserted)).map (·.bytes))
    (extended : Session.lines edited = lines.map (·.bytes)) :
    let kept := lines.filter (!·.inserted)
    let answered := trace shell lines
    let left := answered.filter (!·.1.inserted)
    (run shell edited).output = written answered ∧ (run shell input).output = written left ∧
      (run shell edited).replies = answered.flatMap Prod.snd ∧
      (run shell input).replies = left.flatMap Prod.snd ∧ trace shell kept = left ∧
      (run shell input).shell = (run shell edited).shell ∧
      (run shell input).failed = (run shell edited).failed ∧
      answered.map Prod.fst = lines.takeWhile (Passes ·.bytes) ∧
      ∀ entry ∈ answered, entry.1.inserted = true →
        (IsBlankLine entry.1.bytes → entry.2 = []) ∧
          (¬ IsBlankLine entry.1.bytes → entry.2.length = 1) := by
  intro kept answered left
  have same : trace shell kept = left := trace_filter inert shell
  obtain ⟨sameShell, sameEnd⟩ := runLines_filter inert shell
  rw [run, run, original, extended, ← same]
  exact ⟨output_runLines shell lines, output_runLines shell kept, replies_runLines shell lines,
    replies_runLines shell kept, rfl, sameShell, sameEnd, map_fst_trace shell lines,
    fun entry member _ => replies_of_mem_trace member⟩

/-- Asking for the current screen, a blank line and a line that is no command change nothing
between a link and the command to quit. -/
theorem run_without_inserted_current :
    let current : List UInt8 := [99, 117, 114, 114, 101, 110, 116]
    let quit : List UInt8 := [113, 117, 105, 116]
    let fly : List UInt8 := [102, 108, 121]
    let lines : List MarkedLine :=
      [⟨[47], false⟩, ⟨current, true⟩, ⟨[32], true⟩, ⟨fly, true⟩, ⟨quit, false⟩]
    let input := [47, 10] ++ quit
    let edited := [47, 10] ++ current ++ [13, 10, 32, 10] ++ fly ++ [10] ++ quit ++ [10]
    ∃ shell, Shell.standard {} { stamp := fun _ => default } = .ok shell ∧
      (∀ line ∈ lines, line.inserted = true → IsInert line.bytes) ∧
      Session.lines input = (lines.filter (!·.inserted)).map (·.bytes) ∧
      Session.lines edited = lines.map (·.bytes) ∧
      (run shell edited).output = written (trace shell lines) ∧
      (run shell input).output = written ((trace shell lines).filter (!·.1.inserted)) ∧
      (run shell input).shell = (run shell edited).shell := by
  intro current quit fly lines input edited
  obtain ⟨shell, built⟩ : ∃ shell, Shell.standard {} { stamp := fun _ => default } = .ok shell :=
    ⟨_, rfl⟩
  have shows : IsInert current := ⟨"current", by decide +kernel, Or.inr (Or.inl rfl)⟩
  have blank : IsInert [32] := ⟨" ", by decide +kernel, Or.inl (by decide)⟩
  have strange : IsInert fly := ⟨"fly", by decide +kernel, Or.inr (Or.inr (Or.inr ⟨_, rfl⟩))⟩
  have inert : ∀ line ∈ lines, line.inserted = true → IsInert line.bytes := by
    simp only [lines, List.forall_mem_cons]
    exact ⟨nofun, fun _ => shows, fun _ => blank, fun _ => strange, nofun, List.forall_mem_nil _⟩
  have original : Session.lines input = (lines.filter (!·.inserted)).map (·.bytes) := by
    decide +kernel
  have extended : Session.lines edited = lines.map (·.bytes) := by decide +kernel
  obtain ⟨after, before, _, _, _, sameShell, _⟩ :=
    run_without_inserted shell inert original extended
  exact ⟨shell, built, inert, original, extended, after, before, sameShell⟩

end Session

end Wayfinder
