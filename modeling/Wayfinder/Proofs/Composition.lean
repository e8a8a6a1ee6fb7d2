/-
This file proves that a session composes over its input. An input that ends with a line feed is a
sequence of whole lines, so the lines of what follows it are added to its own. While no line is
invalid and none quits, the session goes on with the rest on the shell that it has left; from the
first line that is invalid or quits, nothing of the rest is read. What one line does is said
separately: a blank line does nothing, and every other line is answered once. An answer is written
and counted when it is given, so what a session has written and counted are always its answers.
-/
import Wayfinder.Proofs.Trimming
import Wayfinder.Session

namespace Wayfinder

/-! ### Blank lines -/

namespace Command

theorem withLink_ne_none (command : String → Command) (verb argument : String) :
    withLink command verb argument ≠ .ok none := by
  unfold withLink
  split <;> exact fun none => nomatch none

theorem ofVerb_ne_none (verb argument : String) : ofVerb verb argument ≠ .ok none := by
  unfold ofVerb
  split
  case h_1 => exact withLink_ne_none _ _ _
  case h_2 => exact withLink_ne_none _ _ _
  case h_3 => exact withLink_ne_none _ _ _
  all_goals exact fun none => nomatch none

/-- A line holds no command exactly when it is blank. -/
theorem parse_eq_none_iff (line : String) :
    parse line = .ok none ↔ ∀ character ∈ line.toList, Text.isBlank character = true := by
  rw [← Text.trimmed_eq_nil_iff, parse]
  split
  · next nothing => exact ⟨fun _ => nothing, fun _ => rfl⟩
  · next rest rooted =>
    rw [rooted]
    exact ⟨fun none => (nomatch none), fun nothing => (nomatch nothing)⟩
  · next characters notEmpty _ =>
    exact ⟨fun none => absurd none (ofVerb_ne_none _ _), fun nothing => absurd nothing notEmpty⟩

end Command

namespace Session

/-! ### Whole lines -/

theorem linesOfPieces_append (pieces : List (List UInt8)) {later : List (List UInt8)}
    (notEmpty : later ≠ []) :
    linesOfPieces (pieces ++ later) =
      pieces.map dropCarriageReturn ++ linesOfPieces later := by
  induction pieces with
  | nil => rfl
  | cons piece rest inductionHypothesis =>
    obtain ⟨next, others, follows⟩ :=
      List.exists_cons_of_ne_nil (List.append_ne_nil_of_right_ne_nil rest notEmpty)
    rw [List.cons_append, List.map_cons, List.cons_append, ← inductionHypothesis, follows,
      linesOfPieces]

/-- The lines up to a line feed are the pieces in front of it. -/
theorem lines_append_lineFeed (first second : List UInt8) :
    lines (first ++ lineFeed :: second) =
      (first.splitOn lineFeed).map dropCarriageReturn ++ lines second := by
  rw [lines, List.splitOn_append_cons_self]
  exact linesOfPieces_append _ (List.splitOn_ne_nil lineFeed second)

/-- The lines of an input that goes on after a line feed are those of its two parts. -/
theorem lines_append {first : List UInt8}
    (closed : first = [] ∨ first.getLast? = some lineFeed) (second : List UInt8) :
    lines (first ++ second) = lines first ++ lines second := by
  rcases closed with rfl | last
  · rfl
  · obtain ⟨start, rfl⟩ := List.getLast?_eq_some_iff.1 last
    rw [List.append_assoc, List.singleton_append, lines_append_lineFeed,
      lines_append_lineFeed start []]
    show _ = (_ ++ []) ++ _
    rw [List.append_nil]

theorem lines_of_piece {piece : List UInt8} (whole : lineFeed ∉ piece) (rest : List UInt8) :
    lines (piece ++ lineFeed :: rest) = dropCarriageReturn piece :: lines rest := by
  rw [lines_append_lineFeed, List.splitOn_eq_singleton whole]
  rfl

/-! ### Going on and stopping -/

/-- A line ends a session as a command when it is valid text that quits. -/
def Quits (line : List UInt8) : Prop :=
  ∃ text, decodeLine line = some text ∧ Command.parse text = .ok (some .quit)

/-- A session goes on after a line that is valid text and does not quit. -/
def Passes (line : List UInt8) : Prop :=
  ∃ text, decodeLine line = some text ∧ Command.parse text ≠ .ok (some .quit)

theorem not_passes_iff (line : List UInt8) : ¬ Passes line ↔ decodeLine line = none ∨ Quits line := by
  unfold Passes Quits
  cases decodeLine line with
  | none => simp
  | some text => simp

/-! ### One line -/

section Turn

variable {line : List UInt8} {text : String} (decoded : decodeLine line = some text)

include decoded

theorem reading_of_decoded : reading line = some (Command.parse text) := by
  rw [reading, decoded, Option.map_some]

theorem turn_of_blank (blank : Command.parse text = .ok none) (progress : Progress) :
    turn progress line = .goesOn progress := by
  rw [turn, reading_of_decoded decoded, blank]

theorem turn_of_command {command : Command} (parsed : Command.parse text = .ok (some command))
    (goesOn : command ≠ .quit) (progress : Progress) :
    turn progress line =
      .goesOn (progress.answered (progress.shell.execute command).1
        (progress.shell.execute command).2) := by
  rw [turn, reading_of_decoded decoded, parsed]
  cases command with
  | quit => exact absurd rfl goesOn
  | _ => rfl

theorem turn_of_error {error : CommandError} (refused : Command.parse text = .error error)
    (progress : Progress) :
    turn progress line =
      .goesOn (progress.answered (.failure error.message) progress.shell) := by
  rw [turn, reading_of_decoded decoded, refused]

end Turn

/-- A line that does not pass ends a session, which has failed if the line is not valid text. -/
theorem turn_of_not_passes {line : List UInt8} (stops : ¬ Passes line) (progress : Progress) :
    turn progress line = .ends ⟨progress, (decodeLine line).isNone⟩ := by
  rcases (not_passes_iff line).1 stops with invalid | ⟨text, decoded, quits⟩
  · rw [turn, reading, invalid]
    rfl
  · rw [turn, reading_of_decoded decoded, quits, decoded]
    rfl

/-- What a line that passes does to a session with a shell: nothing if it holds no command, else
one answer. -/
theorem passes_cases {line : List UInt8} (passes : Passes line) (shell : Shell) :
    (reading line = some (.ok none) ∧
        ∀ progress : Progress, progress.shell = shell → turn progress line = .goesOn progress) ∨
      reading line ≠ some (.ok none) ∧ ∃ reply after, ∀ progress : Progress,
        progress.shell = shell → turn progress line = .goesOn (progress.answered reply after) := by
  obtain ⟨text, decoded, goesOn⟩ := passes
  rw [reading_of_decoded decoded]
  cases parsed : Command.parse text with
  | error error =>
    refine Or.inr ⟨nofun, .failure error.message, shell, ?_⟩
    rintro progress rfl
    exact turn_of_error decoded parsed progress
  | ok command? =>
    cases command? with
    | none => exact Or.inl ⟨rfl, fun progress _ => turn_of_blank decoded parsed progress⟩
    | some command =>
      have different : command ≠ .quit := fun quit => goesOn (quit ▸ parsed)
      refine Or.inr ⟨nofun, (shell.execute command).1, (shell.execute command).2, ?_⟩
      rintro progress rfl
      exact turn_of_command decoded parsed different progress

theorem exists_turn_of_passes {line : List UInt8} (passes : Passes line) (progress : Progress) :
    ∃ next, turn progress line = .goesOn next := by
  rcases passes_cases passes progress.shell with ⟨_, skipped⟩ | ⟨_, _, _, answered⟩
  · exact ⟨_, skipped progress rfl⟩
  · exact ⟨_, answered progress rfl⟩

theorem resume_of_goesOn {progress next : Progress} {line : List UInt8}
    (taken : turn progress line = .goesOn next) (rest : List (List UInt8)) :
    resume progress (line :: rest) = resume next rest := by
  rw [resume, taken]

theorem resume_of_ends {progress : Progress} {transcript : Transcript} {line : List UInt8}
    (taken : turn progress line = .ends transcript) (rest : List (List UInt8)) :
    resume progress (line :: rest) = transcript := by
  rw [resume, taken]

/-! ### What is written and counted -/

/-- What has been written are the lines of the answers, and they have been counted. -/
structure Progress.IsTallied (progress : Progress) : Prop where
  output : progress.output = String.join (progress.replies.map Reply.line)
  count : progress.count = progress.replies.length

theorem Progress.start_isTallied (shell : Shell) : (start shell).IsTallied :=
  ⟨rfl, rfl⟩

theorem Progress.IsTallied.answered {progress : Progress} (tallied : progress.IsTallied)
    (reply : Reply) (after : Shell) : (progress.answered reply after).IsTallied where
  output := by
    show progress.output ++ reply.line = _
    rw [tallied.output, Progress.answered, List.map_append, String.join_append, List.map_singleton,
      String.join_cons, String.join_nil, String.append_empty]
  count := by
    show progress.count + 1 = _
    rw [tallied.count, Progress.answered, List.length_append, List.length_singleton]

/-- However a session goes on, what it has written and counted are its answers. -/
theorem resume_isTallied {progress : Progress} (tallied : progress.IsTallied)
    (lines : List (List UInt8)) : (resume progress lines).IsTallied := by
  induction lines generalizing progress with
  | nil => exact tallied
  | cons line rest inductionHypothesis =>
    by_cases passes : Passes line
    · rcases passes_cases passes progress.shell with ⟨_, skipped⟩ | ⟨_, reply, after, answered⟩
      · rw [resume_of_goesOn (skipped progress rfl)]
        exact inductionHypothesis tallied
      · rw [resume_of_goesOn (answered progress rfl)]
        exact inductionHypothesis (tallied.answered reply after)
    · rw [resume_of_ends (turn_of_not_passes passes progress)]
      exact tallied

theorem runLines_isTallied (shell : Shell) (lines : List (List UInt8)) :
    (runLines shell lines).IsTallied :=
  resume_isTallied (Progress.start_isTallied shell) lines

/-! ### Many lines -/

/-- A session that goes on after a part of it. -/
def Progress.followedBy (earlier : Progress) (later : Transcript) : Transcript where
  replies := earlier.replies ++ later.replies
  output := earlier.output ++ later.output
  count := earlier.count + later.count
  shell := later.shell
  failed := later.failed

/-- A session that ends at once adds nothing to what came before it. -/
theorem Progress.followedBy_start (progress : Progress) (failed : Bool) :
    progress.followedBy ⟨start progress.shell, failed⟩ = ⟨progress, failed⟩ := by
  rw [followedBy, start, List.append_nil, String.append_empty, Nat.add_zero]

theorem Progress.answered_followedBy (progress : Progress) (reply : Reply) (after : Shell)
    (later : Transcript) :
    (progress.answered reply after).followedBy later =
      progress.followedBy (((start progress.shell).answered reply after).followedBy later) := by
  simp only [followedBy, answered, start, List.append_assoc, List.nil_append,
    String.append_assoc, String.empty_append, Nat.add_assoc, Nat.zero_add]

/-- What was done before only stands in front of what a session does. -/
theorem resume_eq (progress : Progress) (lines : List (List UInt8)) :
    resume progress lines = progress.followedBy (runLines progress.shell lines) := by
  induction lines generalizing progress with
  | nil => exact (progress.followedBy_start false).symm
  | cons line rest inductionHypothesis =>
    rw [runLines]
    -- What a line does depends on the shell alone, so it does the same with an empty past.
    by_cases passes : Passes line
    · rcases passes_cases passes progress.shell with ⟨_, skipped⟩ | ⟨_, reply, after, answered⟩
      · rw [resume_of_goesOn (skipped progress rfl), resume_of_goesOn (skipped (.start _) rfl)]
        exact inductionHypothesis progress
      · rw [resume_of_goesOn (answered progress rfl), resume_of_goesOn (answered (.start _) rfl),
          inductionHypothesis, inductionHypothesis]
        exact progress.answered_followedBy reply after _
    · rw [resume_of_ends (turn_of_not_passes passes _), resume_of_ends (turn_of_not_passes passes _)]
      exact (progress.followedBy_start _).symm

/-- A session takes its first line alone, and then the others on the shell that this line leaves,
unless it ends the session. -/
theorem runLines_cons (shell : Shell) (line : List UInt8) (rest : List (List UInt8)) :
    runLines shell (line :: rest) =
      match turn (.start shell) line with
      | .goesOn alone => alone.followedBy (runLines alone.shell rest)
      | .ends transcript => transcript := by
  cases taken : turn (.start shell) line with
  | goesOn alone => exact (resume_of_goesOn taken rest).trans (resume_eq alone rest)
  | ends transcript => exact resume_of_ends taken rest

/-- To read an input up to each line feed, and to take what was read before going on, comes to the
same as to read the whole input first. -/
theorem run_of_piece {piece : List UInt8} (whole : lineFeed ∉ piece) (shell : Shell)
    (rest : List UInt8) :
    run shell (piece ++ lineFeed :: rest) =
      match turn (.start shell) (dropCarriageReturn piece) with
      | .goesOn alone => alone.followedBy (run alone.shell rest)
      | .ends transcript => transcript := by
  rw [run, lines_of_piece whole, runLines_cons]
  rfl

theorem runLines_of_blank {line : List UInt8} {text : String}
    (decoded : decodeLine line = some text) (blank : Command.parse text = .ok none)
    (shell : Shell) (rest : List (List UInt8)) :
    runLines shell (line :: rest) = runLines shell rest :=
  resume_of_goesOn (turn_of_blank decoded blank _) rest

theorem runLines_of_not_passes {line : List UInt8} (stops : ¬ Passes line) (shell : Shell)
    (rest : List (List UInt8)) :
    runLines shell (line :: rest) = ⟨.start shell, (decodeLine line).isNone⟩ :=
  resume_of_ends (turn_of_not_passes stops _) rest

/-- After lines that pass, a session goes on with the rest. -/
theorem resume_append {firsts : List (List UInt8)} (passing : ∀ line ∈ firsts, Passes line)
    (progress : Progress) (seconds : List (List UInt8)) :
    resume progress (firsts ++ seconds) =
      resume (resume progress firsts).toProgress seconds := by
  induction firsts generalizing progress with
  | nil => rfl
  | cons line rest inductionHypothesis =>
    obtain ⟨first, others⟩ := List.forall_mem_cons.1 passing
    obtain ⟨next, taken⟩ := exists_turn_of_passes first progress
    rw [List.cons_append, resume_of_goesOn taken, resume_of_goesOn taken,
      inductionHypothesis others]

/-- A session over lines that pass and further lines is one over the former and then one over the
latter on the shell that the first has left. -/
theorem runLines_append {firsts : List (List UInt8)} (passing : ∀ line ∈ firsts, Passes line)
    (shell : Shell) (seconds : List (List UInt8)) :
    runLines shell (firsts ++ seconds) =
      (runLines shell firsts).followedBy (runLines (runLines shell firsts).shell seconds) :=
  (resume_append passing _ seconds).trans (resume_eq _ seconds)

theorem runLines_cons_of_passes {line : List UInt8} (passes : Passes line) (shell : Shell)
    (rest : List (List UInt8)) :
    runLines shell (line :: rest) =
      (runLines shell [line]).followedBy (runLines (runLines shell [line]).shell rest) :=
  runLines_append (List.forall_mem_singleton.2 passes) shell rest

/-- A session over lines that pass does not fail. -/
theorem runLines_failed_of_passing {lines : List (List UInt8)}
    (passing : ∀ line ∈ lines, Passes line) (shell : Shell) :
    (runLines shell lines).failed = false := by
  have whole := congrArg Transcript.failed (runLines_append passing shell [])
  rwa [List.append_nil] at whole

/-- A session over lines of which one stops it is the session over those in front of that line,
but for its failure. -/
theorem runLines_of_stopping {before : List (List UInt8)} (passing : ∀ line ∈ before, Passes line)
    {stopping : List UInt8} (stops : ¬ Passes stopping) (shell : Shell)
    (rest : List (List UInt8)) :
    runLines shell (before ++ stopping :: rest) =
      ⟨(runLines shell before).toProgress, (decodeLine stopping).isNone⟩ :=
  (resume_append passing _ _).trans (resume_of_ends (turn_of_not_passes stops _) rest)

/-- Among lines of which one stops, there is a first that does. -/
theorem exists_first_stopping {lines : List (List UInt8)} (stopped : ∃ line ∈ lines, ¬ Passes line) :
    ∃ before stopping rest, lines = before ++ stopping :: rest ∧ (∀ line ∈ before, Passes line) ∧
      ¬ Passes stopping := by
  induction lines with
  | nil =>
    obtain ⟨line, member, _⟩ := stopped
    exact absurd member List.not_mem_nil
  | cons line rest inductionHypothesis =>
    by_cases passes : Passes line
    · have later : ∃ other ∈ rest, ¬ Passes other := by
        obtain ⟨other, member, stops⟩ := stopped
        rcases List.mem_cons.1 member with rfl | inRest
        · exact absurd passes stops
        · exact ⟨other, inRest, stops⟩
      obtain ⟨before, stopping, others, rfl, passing, stops⟩ := inductionHypothesis later
      exact ⟨line :: before, stopping, others, rfl, List.forall_mem_cons.2 ⟨passes, passing⟩, stops⟩
    · exact ⟨[], line, rest, rfl, fun _ member => absurd member List.not_mem_nil, passes⟩

theorem not_quits_of_passes {line : List UInt8} (passes : Passes line) : ¬ Quits line :=
  fun quits => (not_passes_iff line).2 (Or.inr quits) passes

/-- The first line that stops is invalid exactly when an invalid line comes before any that
quits. -/
theorem first_stopping_invalid_iff {before : List (List UInt8)}
    (passing : ∀ line ∈ before, Passes line) {stopping : List UInt8} (stops : ¬ Passes stopping)
    (rest : List (List UInt8)) :
    decodeLine stopping = none ↔ ∃ earlier invalid later,
      before ++ stopping :: rest = earlier ++ invalid :: later ∧ decodeLine invalid = none ∧
        ∀ line ∈ earlier, ¬ Quits line := by
  constructor
  · intro invalid
    exact ⟨before, stopping, rest, rfl, invalid, fun line member =>
      not_quits_of_passes (passing line member)⟩
  · rintro ⟨earlier, invalid, later, same, undecoded, unquit⟩
    refine ((not_passes_iff stopping).1 stops).resolve_right fun quits => ?_
    have different : stopping ≠ invalid := by
      rintro rfl
      obtain ⟨text, decoded, _⟩ := quits
      rw [undecoded] at decoded
      cases decoded
    rcases List.append_eq_append_iff.1 same with
      ⟨between, front, back⟩ | ⟨between, front, back⟩
    · rcases List.cons_eq_append_iff.1 back with ⟨_, here⟩ | ⟨others, inFront, _⟩
      · exact different (List.cons_eq_cons.1 here).1.symm
      · refine unquit stopping ?_ quits
        rw [front, inFront]
        exact List.mem_append_right before List.mem_cons_self
    · rcases List.cons_eq_append_iff.1 back with ⟨_, here⟩ | ⟨others, inFront, _⟩
      · exact different (List.cons_eq_cons.1 here).1
      · refine (not_passes_iff invalid).2 (Or.inl undecoded) (passing invalid ?_)
        rw [front, inFront]
        exact List.mem_append_right earlier List.mem_cons_self

/-- What a session over an input of one line does: nothing if the line is blank, else one
answer. -/
theorem run_of_single {input line : List UInt8} (single : lines input = [line]) {text : String}
    (decoded : decodeLine line = some text) (goesOn : Command.parse text ≠ .ok (some .quit))
    (shell : Shell) :
    ((∀ character ∈ text.toList, Text.isBlank character = true) →
        run shell input = ⟨.start shell, false⟩) ∧
      (¬ (∀ character ∈ text.toList, Text.isBlank character = true) →
        (∃ command, Command.parse text = .ok (some command) ∧
            run shell input =
              ⟨(Progress.start shell).answered (shell.execute command).1
                (shell.execute command).2, false⟩) ∨
          ∃ error, Command.parse text = .error error ∧
            run shell input =
              ⟨(Progress.start shell).answered (.failure error.message) shell, false⟩) := by
  rw [← Command.parse_eq_none_iff, run, single]
  constructor
  · intro blank
    exact runLines_of_blank decoded blank shell []
  · intro notBlank
    cases parsed : Command.parse text with
    | error error =>
      exact Or.inr ⟨error, rfl, resume_of_goesOn (turn_of_error decoded parsed _) []⟩
    | ok command? =>
      cases command? with
      | none => exact absurd parsed notBlank
      | some command =>
        have different : command ≠ .quit := fun quit => goesOn (quit ▸ parsed)
        exact Or.inl
          ⟨command, rfl, resume_of_goesOn (turn_of_command decoded parsed different _) []⟩

/-! ### Whole inputs -/

/-- A session composes over its input. Take an input that is empty or ends with a line feed, and
anything after it. If all lines of the first input pass, the session over both is the session over
the first and then the session over the second on the shell that it leaves. If not, the second
input is never read, and all that is done comes from the lines in front of the first line that
stops the session. A line that passes does nothing if it is blank, and is answered once if not. -/
theorem run_append (shell : Shell) {first : List UInt8}
    (closed : first = [] ∨ first.getLast? = some lineFeed) (second : List UInt8) :
    ((∀ line ∈ lines first, Passes line) →
        let earlier := run shell first
        let later := run earlier.shell second
        let whole := run shell (first ++ second)
        whole.output = earlier.output ++ later.output ∧
          whole.count = earlier.count + later.count ∧
          whole.replies = earlier.replies ++ later.replies ∧
          whole.shell = later.shell ∧ whole.failed = later.failed ∧ earlier.failed = false) ∧
      ((∃ line ∈ lines first, decodeLine line = none ∨ Quits line) →
        run shell (first ++ second) = run shell first ∧
          ((run shell first).failed = true ↔ ∃ before invalid rest,
            lines first = before ++ invalid :: rest ∧ decodeLine invalid = none ∧
              ∀ line ∈ before, ¬ Quits line) ∧
          ∃ before stopping rest, lines first = before ++ stopping :: rest ∧
            (∀ line ∈ before, Passes line) ∧ (decodeLine stopping = none ∨ Quits stopping) ∧
            (run shell first).output = (runLines shell before).output ∧
            (run shell first).count = (runLines shell before).count ∧
            (run shell first).replies = (runLines shell before).replies ∧
            (run shell first).shell = (runLines shell before).shell) ∧
      ∀ input line text, lines input = [line] → decodeLine line = some text →
        Command.parse text ≠ .ok (some .quit) →
        let alone := run shell input
        ((∀ character ∈ text.toList, Text.isBlank character = true) →
            alone.output = "" ∧ alone.count = 0 ∧ alone.replies = [] ∧ alone.shell = shell ∧
              alone.failed = false) ∧
          (¬ (∀ character ∈ text.toList, Text.isBlank character = true) →
            ∃ reply, alone.output = reply.json ++ "\n" ∧ alone.count = 1 ∧
              alone.replies = [reply] ∧ alone.failed = false ∧
              ((∃ command, Command.parse text = .ok (some command) ∧
                  reply = (shell.execute command).1 ∧ alone.shell = (shell.execute command).2) ∨
                ∃ error, Command.parse text = .error error ∧
                  reply = .failure error.message ∧ alone.shell = shell)) := by
  have whole : run shell (first ++ second) = runLines shell (lines first ++ lines second) :=
    congrArg (runLines shell) (lines_append closed second)
  refine ⟨fun passing => ?_, fun stopped => ?_, fun input line text single decoded goesOn => ?_⟩
  · have composed := whole.trans (runLines_append passing shell (lines second))
    have unfailed := runLines_failed_of_passing passing shell
    dsimp only
    rw [composed]
    exact ⟨rfl, rfl, rfl, rfl, rfl, unfailed⟩
  · simp only [← not_passes_iff] at stopped ⊢
    obtain ⟨before, stopping, rest, split, passing, stops⟩ := exists_first_stopping stopped
    have alone : run shell first =
        ⟨(runLines shell before).toProgress, (decodeLine stopping).isNone⟩ := by
      rw [run, split, runLines_of_stopping passing stops]
    refine ⟨?_, ?_, before, stopping, rest, split, passing, stops, ?_⟩
    · rw [whole, alone, split, List.append_assoc, List.cons_append,
        runLines_of_stopping passing stops]
    · rw [alone, split, ← first_stopping_invalid_iff passing stops]
      exact Option.isNone_iff_eq_none
    · rw [alone]
      exact ⟨rfl, rfl, rfl, rfl⟩
  · obtain ⟨blankCase, otherCase⟩ := run_of_single single decoded goesOn shell
    refine ⟨fun blank => ?_, fun notBlank => ?_⟩
    · rw [blankCase blank]
      exact ⟨rfl, rfl, rfl, rfl, rfl⟩
    · rcases otherCase notBlank with ⟨command, parsed, answered⟩ | ⟨error, refused, answered⟩
      · rw [answered]
        exact ⟨_, String.empty_append, rfl, rfl, rfl, Or.inl ⟨command, parsed, rfl, rfl⟩⟩
      · rw [answered]
        exact ⟨_, String.empty_append, rfl, rfl, rfl, Or.inr ⟨error, refused, rfl, rfl⟩⟩

/-- After a blank line and the command to quit, nothing more is read; after a link, the way back
is asked for on the shell that the link has left. -/
theorem run_append_after_quit :
    let quitting : List UInt8 := [32, 10, 113, 117, 105, 116, 13, 10]
    let going : List UInt8 := [47, 10]
    let second : List UInt8 := [98, 97, 99, 107, 10]
    ∃ shell, Shell.standard {} { stamp := fun _ => default } = .ok shell ∧
      (quitting.getLast? = some lineFeed ∧ Quits [113, 117, 105, 116] ∧
        run shell (quitting ++ second) = run shell quitting) ∧
      going.getLast? = some lineFeed ∧ (∀ line ∈ lines going, Passes line) ∧
        let earlier := run shell going
        let later := run earlier.shell second
        let whole := run shell (going ++ second)
        whole.output = earlier.output ++ later.output ∧
          whole.count = earlier.count + later.count ∧ whole.shell = later.shell := by
  intro quitting going second
  have quits : Quits [113, 117, 105, 116] := ⟨"quit", by decide +kernel, rfl⟩
  have passing : ∀ line ∈ lines going, Passes line := by
    have single : lines going = [[47]] := by decide +kernel
    rw [single, List.forall_mem_singleton]
    exact ⟨"/", by decide +kernel, by decide⟩
  obtain ⟨shell, built⟩ : ∃ shell, Shell.standard {} { stamp := fun _ => default } = .ok shell :=
    ⟨_, rfl⟩
  have stopped : ∃ line ∈ lines quitting, decodeLine line = none ∨ Quits line :=
    ⟨[113, 117, 105, 116], by decide +kernel, Or.inr quits⟩
  have quittingEnds : quitting.getLast? = some lineFeed := rfl
  have goingEnds : going.getLast? = some lineFeed := rfl
  obtain ⟨_, unread, _⟩ := run_append shell (Or.inr quittingEnds) second
  obtain ⟨composed, _⟩ := run_append shell (Or.inr goingEnds) second
  obtain ⟨output, count, _, after, _⟩ := composed passing
  exact ⟨shell, built, ⟨quittingEnds, quits, (unread stopped).1⟩, goingEnds, passing, output,
    count, after⟩

end Session

end Wayfinder
