/-
This file proves that showing a link and going there in a session come to the same. A session reads
the link from a line: it decodes the line, takes the verb off and trims what is left, before the
link is parsed. Parsing trims the link anyway, so a session leads to the location that the link
alone names; and a screen does not depend on the stamps that a shell was built with. So the program
writes the same text for a link among its arguments as for a line of input that asks to go there;
laid out over lines, the text still reads as the same screen.
-/
import Wayfinder.Proofs.Addressing
import Wayfinder.Proofs.Noninterference
import Wayfinder.Proofs.Padding
import Wayfinder.Proofs.Restoring
import Wayfinder.Proofs.Wording
import Wayfinder.Program

namespace Wayfinder

open Text (bytes)

/-! ### Trimmed links -/

/-- A link names the same location when it is trimmed first. -/
theorem Location.parse_trim (link : String) : parse (Text.trim link) = parse link := by
  rw [parse_eq_parse_iff, Text.trimmed_of_isTrimmed (Text.trim_isTrimmed link), Text.toList_trim]

theorem Shell.navigate_trim (shell : Shell) (link : String) :
    shell.navigate (Text.trim link) = shell.navigate link := by
  rw [navigate, navigate, Location.parse_trim]

/-! ### Sessions of one line -/

namespace Session

theorem run_line {line : String} (oneLine : '\n' ∉ line.toList) (shell : Shell) :
    run shell (bytes (line ++ "\n")) = runLines shell [bytes line] := by
  have ended : bytes (line ++ "\n") = bytes line ++ lineFeed :: [] := Text.bytes_append line "\n"
  rw [run_eq_runLines, ended, List.splitOn_append_cons_self,
    List.splitOn_eq_singleton (mt lineFeed_mem_bytes_iff.1 oneLine)]
  exact runLines_concat_empty [bytes line] shell

/-- A session over one line that asks to go to a link answers with the screen of the link. -/
theorem run_go {link : String}
    (notBlank : ∃ character ∈ link.toList, Text.isBlank character = false)
    (oneLine : '\n' ∉ link.toList) (shell : Shell) :
    run shell (bytes ("go " ++ link ++ "\n")) =
      ⟨(Progress.start shell).answered (.screen (shell.navigate link).1) (shell.navigate link).2,
        false⟩ := by
  have left : Text.trim link ≠ "" := by
    intro nothing
    obtain ⟨character, inLink, solid⟩ := notBlank
    have blank := (Text.isEmpty_trim_iff link).1 (String.isEmpty_iff.2 nothing) character inLink
    exact absurd (solid.symm.trans blank) Bool.false_ne_true
  have parsed : Command.parse ("go " ++ link) = .ok (some (.navigate (Text.trim link))) :=
    Command.parse_verb_append List.mem_cons_self left
  have whole : '\n' ∉ ("go " ++ link).toList := by
    rw [String.toList_append, List.mem_append, not_or]
    exact ⟨by decide, oneLine⟩
  have decoded : decodeLine (bytes ("go " ++ link)) = some ("go " ++ link) :=
    decodeLine_eq_some_iff.2 rfl
  have goesOn : Command.navigate (Text.trim link) ≠ .quit := Command.noConfusion
  rw [run_line whole, runLines, resume_of_goesOn (turn_of_command decoded parsed goesOn _),
    ← shell.navigate_trim link]
  rfl

end Session

/-! ### Shells of one configuration -/

namespace Shell

/-- A link leads to the same screen on alike shells. -/
theorem Alike.navigate_eq {one other : Shell} (alike : one.Alike other) (link : String) :
    (one.navigate link).1 = (other.navigate link).1 :=
  congrFun (screenAt_eq alike) (Location.parse link).pathname

theorem standard_alike {config : Config} {first second : StampSupply} {one other : Shell}
    (builtOne : standard config first = .ok one) (builtOther : standard config second = .ok other) :
    one.Alike other := by
  have sameTitle : (AppContext.ofSeed config.context first.next).appTitle =
      (AppContext.ofSeed config.context second.next).appTitle := rfl
  exact build_alike View.isOwn_standardViews sameTitle builtOne builtOther

theorem standard_error_iff (config : Config) (first second : StampSupply) (error : ShellError) :
    standard config first = .error error ↔ standard config second = .error error :=
  (build_eq_error_iff config Registry.standardViews _ _ error).trans
    (build_eq_error_iff config Registry.standardViews _ _ error).symm

/-- Whatever the stamps are, a configuration gives alike shells, or none for the same reason. -/
theorem standard_outcome (config : Config) (first second : StampSupply) :
    (∃ error, standard config first = .error error ∧ standard config second = .error error) ∨
      ∃ one other, standard config first = .ok one ∧ standard config second = .ok other ∧
        one.Alike other := by
  cases outcome : standard config first with
  | error error =>
    exact Or.inl ⟨error, rfl, (standard_error_iff config first second error).1 outcome⟩
  | ok one =>
    cases again : standard config second with
    | error error =>
      cases outcome.symm.trans ((standard_error_iff config first second error).2 again)
    | ok other => exact Or.inr ⟨one, other, rfl, rfl, standard_alike outcome again⟩

end Shell

namespace Program

/-! ### Showing and going -/

/-- A session on an alike shell writes what is shown for the link. -/
theorem showScreen_eq_output {link : String}
    (notBlank : ∃ character ∈ link.toList, Text.isBlank character = false)
    (oneLine : '\n' ∉ link.toList) {one other : Shell} (alike : one.Alike other) :
    showScreen one link false = (Session.run other (bytes ("go " ++ link ++ "\n"))).output := by
  rw [Session.run_go notBlank oneLine, showScreen, alike.navigate_eq]
  show _ = "" ++ (Json.print _ ++ "\n")
  rw [String.empty_append]
  rfl

/-- What is shown for a link is read as the screen of the link, in either layout. -/
theorem read_showScreen (shell : Shell) (link : String) (pretty : Bool) :
    Json.read (showScreen shell link pretty) = some (shell.navigate link).1.toDatum := by
  obtain ⟨compactly, laidOut⟩ :=
    Json.read_line (shell.navigate link).1.toDatum_numberless.isJson
  cases pretty with
  | false => exact compactly
  | true => exact laidOut

/-! ### Whole programs -/

/-- The program looks at no file but the one that its arguments ask for. -/
theorem plan_eq_of_same_file {arguments : List String}
    {first second : String → Option (List UInt8)}
    (same : ∀ path, configFile? arguments = some path → first path = second path)
    (supply : StampSupply) : plan arguments first supply = plan arguments second supply := by
  unfold plan
  cases asked : CommandLine.request arguments with
  | help => rfl
  | misuse reason => rfl
  | run options =>
    have loaded : Config.load first options.config = Config.load second options.config := by
      cases named : options.config with
      | none => rfl
      | some path =>
        have wanted : configFile? arguments = some path := by
          rw [configFile?, asked]
          exact named
        rw [Config.load, Config.load, same path wanted]
    simp only [shell, loaded]

section Runs

variable {arguments : List String} {options : CommandLine.Options}
  (asked : CommandLine.request arguments = .run options) {file : String → Option (List UInt8)}
  {supply : StampSupply}

include asked

theorem run_of_failure {failure : Failure} (failing : shell options file supply = .error failure)
    (input : List UInt8) : run arguments file input supply = failed "" failure := by
  simp only [run, plan, asked, failing]

theorem run_of_path {built : Shell} (building : shell options file supply = .ok built)
    {link : String} (withPath : options.path = some link) (input : List UInt8) :
    run arguments file input supply = ⟨0, showScreen built link options.pretty, none⟩ := by
  simp only [run, plan, asked, building, withPath]

theorem run_of_session {built : Shell} (building : shell options file supply = .ok built)
    (withoutPath : options.path = none) {input : List UInt8}
    (goesOn : (Session.run built input).failed = false) :
    run arguments file input supply = ⟨0, (Session.run built input).output, none⟩ := by
  simp only [run, plan, asked, building, withoutPath, conclude, goesOn, Bool.false_eq_true,
    if_false]

end Runs

/-- Options with the same configuration give alike shells, or fail alike. -/
theorem shell_outcome {showing session : CommandLine.Options}
    (sameConfig : session.config = showing.config) (file : String → Option (List UInt8))
    (first second : StampSupply) :
    (∃ failure, shell showing file first = .error failure ∧
        shell session file second = .error failure) ∨
      ∃ one other, shell showing file first = .ok one ∧ shell session file second = .ok other ∧
        one.Alike other := by
  unfold shell
  rw [sameConfig]
  cases Config.load file showing.config with
  | error error => exact Or.inl ⟨_, rfl, rfl⟩
  | ok config =>
    dsimp only
    rcases Shell.standard_outcome config first second with
      ⟨error, failedOne, failedOther⟩ | ⟨one, other, builtOne, builtOther, alike⟩
    · rw [failedOne, failedOther]
      exact Or.inl ⟨_, rfl, rfl⟩
    · rw [builtOne, builtOther]
      exact Or.inr ⟨one, other, rfl, rfl, alike⟩

/-- Showing a link agrees with going there in a session. Take a link that is not blank and fits on
one line. For every configuration with which a shell can be built, what is shown is exactly what a
session on another shell of the configuration writes when it is told to go to the link, and the
laid-out text reads as the screen that the session answers with. So for all arguments, files and
stamps, the program that is given the link and the program that is told to go there end with the
same code and the same complaint, also when no shell can be built, and what they print reads as
the same datum. -/
theorem showing_agrees_with_going {link : String}
    (notBlank : ∃ character ∈ link.toList, Text.isBlank character = false)
    (oneLine : '\n' ∉ link.toList) :
    (∀ (config : Config) (first second : StampSupply) (one : Shell),
        Shell.standard config first = .ok one →
          ∃ other screen, Shell.standard config second = .ok other ∧
            Session.run other (bytes ("go " ++ link ++ "\n")) =
              ⟨(Session.Progress.start other).answered (.screen screen) (other.navigate link).2,
                false⟩ ∧
            showScreen one link false =
              (Session.run other (bytes ("go " ++ link ++ "\n"))).output ∧
            (Json.read (showScreen one link true)).bind Screen.ofDatum? = some screen) ∧
      ∀ (shown typed : List String) (showing session : CommandLine.Options),
        CommandLine.request shown = .run showing → CommandLine.request typed = .run session →
          showing.path = some link → session.path = none → session.config = showing.config →
            ∀ file input first second,
              let showed := run shown file input first
              let went := run typed file (bytes ("go " ++ link ++ "\n")) second
              showed.exitCode = went.exitCode ∧ showed.complaint = went.complaint ∧
                (showing.pretty = false → showed.output = went.output) ∧
                Json.read showed.output = Json.read went.output := by
  refine ⟨fun config first second one built => ?_, fun shown typed showing session asked askedToo
    withPath withoutPath sameConfig file input first second => ?_⟩
  · rcases Shell.standard_outcome config first second with
      ⟨error, failing, _⟩ | ⟨_, other, builtOne, builtOther, alike⟩
    · cases built.symm.trans failing
    · cases built.symm.trans builtOne
      refine ⟨other, _, builtOther, Session.run_go notBlank oneLine other,
        showScreen_eq_output notBlank oneLine alike, ?_⟩
      rw [read_showScreen, Option.bind_some, Screen.ofDatum?_toDatum, alike.navigate_eq]
  · intro showed went
    rcases shell_outcome sameConfig file first second with
      ⟨failure, failingOne, failingOther⟩ | ⟨one, other, builtOne, builtOther, alike⟩
    · have showedNothing : showed = failed "" failure := run_of_failure asked failingOne input
      have wentNowhere : went = failed "" failure := run_of_failure askedToo failingOther _
      rw [showedNothing, wentNowhere]
      exact ⟨rfl, rfl, fun _ => rfl, rfl⟩
    · have goesOn : (Session.run other (bytes ("go " ++ link ++ "\n"))).failed = false := by
        rw [Session.run_go notBlank oneLine]
      have showedScreen : showed = ⟨0, showScreen one link showing.pretty, none⟩ :=
        run_of_path asked builtOne withPath input
      have wentThere : went = ⟨0, showScreen one link false, none⟩ := by
        rw [showScreen_eq_output notBlank oneLine alike]
        exact run_of_session askedToo builtOther withoutPath goesOn
      rw [showedScreen, wentThere]
      refine ⟨rfl, rfl, fun compactly => ?_, ?_⟩
      · rw [compactly]
      · rw [read_showScreen, read_showScreen]

/-- A link with blank characters around it is shown as it is gone to. -/
theorem showing_agrees_with_going_market :
    let link := "\tmarket?tab=1 "
    let input := bytes ("go " ++ link ++ "\n")
    let first : StampSupply := { stamp := fun _ => ⟨⟨1⟩, ⟨0, 0⟩⟩ }
    let second : StampSupply := { stamp := fun _ => ⟨⟨2⟩, ⟨9, 0⟩⟩ }
    (∃ one other screen, Shell.standard {} first = .ok one ∧ Shell.standard {} second = .ok other ∧
        Session.run other input =
          ⟨(Session.Progress.start other).answered (.screen screen) (other.navigate link).2,
            false⟩ ∧
        showScreen one link false = (Session.run other input).output ∧
        (Json.read (showScreen one link true)).bind Screen.ofDatum? = some screen) ∧
      (run ["--path", link] (fun _ => none) [] first).output =
        (run [] (fun _ => none) input second).output := by
  intro link input first second
  have notBlank : ∃ character ∈ link.toList, Text.isBlank character = false :=
    ⟨'m', by decide, by decide⟩
  obtain ⟨shells, programs⟩ := showing_agrees_with_going notBlank (by decide)
  obtain ⟨one, built⟩ : ∃ one, Shell.standard {} first = .ok one := ⟨_, rfl⟩
  obtain ⟨other, screen, agreement⟩ := shells {} first second one built
  obtain ⟨_, _, sameText, _⟩ := programs ["--path", link] [] { path := some link } {} (by decide)
    (by decide) rfl rfl rfl (fun _ => none) [] first second
  exact ⟨⟨one, other, screen, built, agreement⟩, sameText rfl⟩

end Program

end Wayfinder
