/-
This file proves that navigating is rendering over a history. Whatever was called before, a shell
shows for a link what it showed when it was new, since calls change its history only. The history
is the one that the same pushes, replacements and moves make, so the screen of a revisit can be
traced back: some call made the visit that is current again, the later calls have only moved it,
and the screen that call returned is shown again.
-/
import Wayfinder.Proofs.Building
import Wayfinder.Proofs.Survival

namespace Wayfinder

namespace Shell

/-! ### Calls -/

/-- A call on a shell. -/
inductive Call where
  | navigate (link : String)
  | replace (link : String)
  | back
  | forward
  | current
  | render (link : String)
  deriving DecidableEq, Repr

/-- What a move returns, with the shell after it. A move that is not possible changes nothing. -/
def moved (shell : Shell) : Option (Screen × Shell) → Option Screen × Shell
  | some (screen, after) => (some screen, after)
  | none => (none, shell)

/-- What a call returns, with the shell after it. -/
def call (shell : Shell) : Call → Option Screen × Shell
  | .navigate link => (some (shell.navigate link).1, (shell.navigate link).2)
  | .replace link => (some (shell.replace link).1, (shell.replace link).2)
  | .back => shell.moved shell.back?
  | .forward => shell.moved shell.forward?
  | .current => (shell.current?, shell)
  | .render link => (some (shell.render link), shell)

/-- The shell after a sequence of calls. -/
def after (shell : Shell) (calls : List Call) : Shell :=
  calls.foldl (fun reached call => (reached.call call).2) shell

/-- What a call asks of the history, if anything. -/
def Call.change? : Call → Option History.Call
  | navigate link => some (.push (Location.parse link))
  | replace link => some (.replace (Location.parse link))
  | back => some .back
  | forward => some .forward
  | current => none
  | render _ => none

/-- Whether a call makes a visit. -/
def Call.makesVisit (call : Call) : Bool :=
  call.change?.any History.Call.makesVisit

/-- Whether a call shows a visit that was made before. -/
def Call.revisits : Call → Bool
  | back | forward | current => true
  | navigate _ | replace _ | render _ => false

/-- What a sequence of calls asks of the history, with the stamps that are next each time. Each
new visit draws one stamp. -/
def changes (supply : StampSupply) : List Call → List (Stamp × History.Call)
  | [] => []
  | call :: rest =>
    match call.change? with
    | none => changes supply rest
    | some change =>
      (supply.next, change) ::
        changes (if change.makesVisit then supply.advance else supply) rest

theorem after_cons (shell : Shell) (call : Call) (rest : List Call) :
    shell.after (call :: rest) = (shell.call call).2.after rest := rfl

theorem after_append (shell : Shell) (calls later : List Call) :
    shell.after (calls ++ later) = (shell.after calls).after later :=
  List.foldl_append

theorem after_append_cons (shell : Shell) (before : List Call) (maker : Call)
    (later : List Call) :
    shell.after (before ++ maker :: later) = (shell.after (before ++ [maker])).after later := by
  rw [← after_append, List.append_assoc, List.singleton_append]

theorem after_concat (shell : Shell) (calls : List Call) (call : Call) :
    shell.after (calls ++ [call]) = ((shell.after calls).call call).2 :=
  after_append shell calls [call]

/-! ### Calls change the history only -/

theorem moveTo?_of_current? (shell : Shell) {history : History} {visit : Visit}
    (current : history.current? = some visit) :
    shell.moveTo? history =
      some (shell.screenAt visit.location.pathname, { shell with history := history }) := by
  rw [moveTo?, current?, current]
  rfl

theorem moveTo?_of_not_current? (shell : Shell) {history : History}
    (notCurrent : history.current? = none) : shell.moveTo? history = none := by
  rw [moveTo?, current?, notCurrent]
  rfl

/-- A move leaves another history, if any. -/
theorem moved_setting (shell : Shell) (history? : Option History) :
    ∃ history, (shell.moved (history?.bind shell.moveTo?)).2 = { shell with history := history } := by
  cases history? with
  | none => exact ⟨shell.history, rfl⟩
  | some history =>
    rw [Option.bind_some]
    cases current : history.current? with
    | none => exact ⟨shell.history, by rw [moveTo?_of_not_current? shell current, moved]⟩
    | some visit => exact ⟨history, by rw [moveTo?_of_current? shell current, moved]⟩

/-- A call keeps all but the history and the supply of stamps. -/
theorem call_setting (shell : Shell) (call : Call) :
    ∃ history supply,
      (shell.call call).2 = { shell with history := history, supply := supply } := by
  cases call with
  | navigate link => exact ⟨_, _, rfl⟩
  | replace link => exact ⟨_, _, rfl⟩
  | back =>
    obtain ⟨history, kept⟩ := moved_setting shell shell.history.back?
    exact ⟨history, shell.supply, kept⟩
  | forward =>
    obtain ⟨history, kept⟩ := moved_setting shell shell.history.forward?
    exact ⟨history, shell.supply, kept⟩
  | current => exact ⟨_, _, rfl⟩
  | render link => exact ⟨_, _, rfl⟩

/-- Calls keep all but the history and the supply of stamps. -/
theorem after_setting (shell : Shell) (calls : List Call) :
    ∃ history supply, shell.after calls = { shell with history := history, supply := supply } := by
  induction calls generalizing shell with
  | nil => exact ⟨_, _, rfl⟩
  | cons call rest inductionHypothesis =>
    obtain ⟨history, supply, kept⟩ := inductionHypothesis (shell.call call).2
    obtain ⟨middle, used, first⟩ := call_setting shell call
    rw [after_cons, kept, first]
    exact ⟨history, supply, rfl⟩

/-- A shell shows for a path what it showed when it was new. -/
theorem screenAt_after (shell : Shell) (calls : List Call) :
    (shell.after calls).screenAt = shell.screenAt := by
  obtain ⟨history, supply, kept⟩ := after_setting shell calls
  rw [kept]
  rfl

/-! ### The history of a shell -/

/-- A move on a shell is the move on its history. -/
theorem moved_history {shell : Shell} {history? : Option History}
    (holds : ∀ history, history? = some history → ∃ visit, history.current? = some visit) :
    (shell.moved (history?.bind shell.moveTo?)).2 =
      { shell with history := history?.getD shell.history } := by
  cases history? with
  | none => rfl
  | some history =>
    obtain ⟨visit, current⟩ := holds history rfl
    rw [Option.bind_some, moveTo?_of_current? shell current, moved, Option.getD_some]

/-- What a call does to a shell. -/
theorem call_snd {shell : Shell} (trail : shell.history.IsTrail) (call : Call) :
    (shell.call call).2 =
      { shell with
        history := call.change?.elim shell.history fun change =>
          (shell.history.call shell.supply.next change).2
        supply := if call.makesVisit then shell.supply.advance else shell.supply } := by
  cases call with
  | navigate link => rfl
  | replace link => rfl
  | back =>
    show (shell.moved (shell.history.back?.bind shell.moveTo?)).2 = _
    rw [moved_history fun moved => History.exists_current?_of_back? trail]
    show _ = { shell with history := (shell.history.call shell.supply.next .back).2 }
    rw [History.call]
    cases shell.history.back? <;> rfl
  | forward =>
    show (shell.moved (shell.history.forward?.bind shell.moveTo?)).2 = _
    rw [moved_history fun moved => History.exists_current?_of_forward? trail]
    show _ = { shell with history := (shell.history.call shell.supply.next .forward).2 }
    rw [History.call]
    cases shell.history.forward? <;> rfl
  | current => rfl
  | render link => rfl

theorem call_history_isTrail {shell : Shell} (trail : shell.history.IsTrail) (call : Call) :
    (shell.call call).2.history.IsTrail := by
  rw [call_snd trail]
  cases call.change? with
  | none => exact trail
  | some change => exact History.call_isTrail trail shell.supply.next change

theorem after_history_isTrail {shell : Shell} (trail : shell.history.IsTrail)
    (calls : List Call) : (shell.after calls).history.IsTrail := by
  induction calls generalizing shell with
  | nil => exact trail
  | cons call rest inductionHypothesis => exact inductionHypothesis (call_history_isTrail trail call)

/-- The history of a shell is the one that the changes of its calls make. -/
theorem after_history {shell : Shell} (trail : shell.history.IsTrail) (calls : List Call) :
    (shell.after calls).history = (shell.history.run (changes shell.supply calls)).2 := by
  induction calls generalizing shell with
  | nil => rfl
  | cons call rest inductionHypothesis =>
    rw [after_cons, inductionHypothesis (call_history_isTrail trail call), call_snd trail]
    cases call <;> rfl

/-! ### Tracing a visit -/

/-- Where a call leaves the visit at a position, unless it drops that visit. -/
def follow (shell : Shell) (call : Call) (position : Nat) : Option Nat :=
  call.change?.elim (some position) fun change => shell.history.follow change position

/-- Where a sequence of calls leaves the visit at a position, unless one drops that visit. -/
def trace (shell : Shell) : List Call → Nat → Option Nat
  | [], position => some position
  | call :: rest, position => (shell.follow call position).bind ((shell.call call).2.trace rest)

theorem trace_concat (shell : Shell) (calls : List Call) (call : Call) (position : Nat) :
    shell.trace (calls ++ [call]) position =
      (shell.trace calls position).bind ((shell.after calls).follow call) := by
  induction calls generalizing shell position with
  | nil =>
    show (shell.follow call position).bind some = shell.follow call position
    exact Option.bind_fun_some _
  | cons first rest inductionHypothesis =>
    show (shell.follow first position).bind _ = ((shell.follow first position).bind _).bind _
    rw [Option.bind_assoc]
    exact congrArg _ (funext fun next => inductionHypothesis (shell.call first).2 next)

theorem getElem?_of_follow {shell : Shell} (trail : shell.history.IsTrail) {call : Call}
    {position later : Nat} (followed : shell.follow call position = some later) :
    (shell.call call).2.history.visits[later]? = shell.history.visits[position]? := by
  rw [call_snd trail]
  unfold follow at followed
  cases change : call.change? with
  | none =>
    rw [change] at followed
    cases followed
    rfl
  | some change =>
    rw [change] at followed
    exact History.getElem?_of_follow followed shell.supply.next

/-- The visit at the position that calls leave a visit at is that visit. -/
theorem getElem?_of_trace {shell : Shell} (trail : shell.history.IsTrail) {calls : List Call}
    {position later : Nat} (traced : shell.trace calls position = some later) :
    (shell.after calls).history.visits[later]? = shell.history.visits[position]? := by
  induction calls generalizing shell position with
  | nil =>
    cases traced
    rfl
  | cons call rest inductionHypothesis =>
    obtain ⟨next, followed, tracedRest⟩ := Option.bind_eq_some_iff.1 traced
    rw [after_cons, inductionHypothesis (call_history_isTrail trail call) tracedRest,
      getElem?_of_follow trail followed]

theorem followed_or_new {shell : Shell} (trail : shell.history.IsTrail) {call : Call}
    {later : Nat} (inside : later < (shell.call call).2.history.visits.length) :
    (∃ position, shell.follow call position = some later) ∨
      call.makesVisit = true ∧ later = (shell.call call).2.history.cursor := by
  rw [call_snd trail] at inside ⊢
  unfold follow
  rw [Call.makesVisit]
  cases change : call.change? with
  | none => exact Or.inl ⟨later, rfl⟩
  | some change =>
    rw [change] at inside
    exact History.followed_or_new inside

/-- One of the calls on a shell made the visit that is current after them all: it makes a visit,
and the calls after it leave that visit where the cursor is in the end. -/
structure MadeCurrent (shell : Shell) (before : List Call) (maker : Call) (later : List Call) :
    Prop where
  makes : maker.makesVisit = true
  kept : (shell.after (before ++ [maker])).trace later
    (shell.after (before ++ [maker])).history.cursor =
      some (shell.after (before ++ maker :: later)).history.cursor

/-- Every visit of a shell that had none when it was new was made by some call and left where it
is by the calls after that. -/
theorem exists_maker {shell : Shell} (trail : shell.history.IsTrail)
    (new : shell.history.visits = []) (calls : List Call) {position : Nat}
    (inside : position < (shell.after calls).history.visits.length) :
    ∃ before maker later, calls = before ++ maker :: later ∧ maker.makesVisit = true ∧
      (shell.after (before ++ [maker])).trace later
        (shell.after (before ++ [maker])).history.cursor = some position := by
  induction calls using List.reverseRecOn generalizing position with
  | nil =>
    rw [after, List.foldl_nil, new] at inside
    exact absurd inside (Nat.not_lt_zero position)
  | append_singleton calls call inductionHypothesis =>
    rw [after_concat] at inside
    rcases followed_or_new (after_history_isTrail trail calls) inside with
      ⟨earlier, followed⟩ | ⟨makes, current⟩
    · have same := getElem?_of_follow (after_history_isTrail trail calls) followed
      rw [List.getElem?_eq_getElem inside] at same
      obtain ⟨earlierInside, _⟩ := List.getElem?_eq_some_iff.1 same.symm
      obtain ⟨before, maker, later, rfl, makes, traced⟩ := inductionHypothesis earlierInside
      refine ⟨before, maker, later ++ [call], by simp, makes, ?_⟩
      rw [trace_concat, traced, Option.bind_some, ← after_append_cons, followed]
    · refine ⟨calls, call, [], rfl, makes, ?_⟩
      rw [after_concat, current]
      rfl

/-! ### Revisiting -/

/-- A call that makes a visit returns the screen of the visit that is current afterwards. -/
theorem current?_of_makesVisit {shell : Shell} (trail : shell.history.IsTrail) {call : Call}
    (makes : call.makesVisit = true) : (shell.call call).2.current? = (shell.call call).1 := by
  have made : ∀ change, call.change? = some change → change.makesVisit = true →
      (shell.call call).2.history.current? =
        (shell.history.call shell.supply.next change).1 := by
    intro change asked makesVisit
    rw [call_snd trail, asked]
    exact History.current?_of_makesVisit trail shell.supply.next makesVisit
  cases call with
  | navigate link => rw [current?, made _ rfl rfl]; rfl
  | replace link => rw [current?, made _ rfl rfl]; rfl
  | back => cases makes
  | forward => cases makes
  | current => cases makes
  | render link => cases makes

theorem current?_of_moved {shell : Shell} {history? : Option History} {screen : Screen}
    (shown : (shell.moved (history?.bind shell.moveTo?)).1 = some screen) :
    (shell.moved (history?.bind shell.moveTo?)).2.current? = some screen := by
  cases history? with
  | none => cases shown
  | some history =>
    rw [Option.bind_some] at shown ⊢
    cases current : history.current? with
    | none =>
      rw [moveTo?_of_not_current? shell current] at shown
      cases shown
    | some visit =>
      rw [moveTo?_of_current? shell current] at shown ⊢
      rw [← shown, moved, current?, current]
      rfl

/-- A call that shows an earlier visit returns the screen of the visit that is current
afterwards. -/
theorem current?_of_revisits {shell : Shell} {call : Call} (revisits : call.revisits = true)
    {screen : Screen} (shown : (shell.call call).1 = some screen) :
    (shell.call call).2.current? = some screen := by
  cases call with
  | navigate link => cases revisits
  | replace link => cases revisits
  | back => exact current?_of_moved shown
  | forward => exact current?_of_moved shown
  | current => exact shown
  | render link => cases revisits

/-- The screen of a visit that is current is the one that the call which made it returned, and
some call made it. -/
theorem current?_maker {shell : Shell} (trail : shell.history.IsTrail)
    (new : shell.history.visits = []) {calls : List Call} {screen : Screen}
    (shown : (shell.after calls).current? = some screen) :
    (∃ before maker later, calls = before ++ maker :: later ∧
        shell.MadeCurrent before maker later) ∧
      ∀ before maker later, calls = before ++ maker :: later →
        shell.MadeCurrent before maker later →
          (shell.after calls).history.current? =
              (shell.after (before ++ [maker])).history.current? ∧
            ((shell.after before).call maker).1 = some screen := by
  constructor
  · obtain ⟨visit, current, _⟩ := Option.map_eq_some_iff.1 shown
    obtain ⟨inside, _⟩ := List.getElem?_eq_some_iff.1 current
    obtain ⟨before, maker, later, rfl, makes, traced⟩ := exists_maker trail new calls inside
    exact ⟨before, maker, later, rfl, makes, traced⟩
  · rintro before maker later rfl ⟨makes, kept⟩
    have same : (shell.after (before ++ maker :: later)).history.current? =
        (shell.after (before ++ [maker])).history.current? := by
      have traced := getElem?_of_trace (after_history_isTrail trail (before ++ [maker])) kept
      rwa [← after_append_cons] at traced
    refine ⟨same, ?_⟩
    rw [← current?_of_makesVisit (after_history_isTrail trail before) makes, ← after_concat,
      ← shown, current?, current?, same, screenAt_after, screenAt_after]

theorem moved_eq_none {shell : Shell} {move? : Option (Screen × Shell)}
    (refused : (shell.moved move?).1 = none) : (shell.moved move?).2 = shell := by
  cases move? with
  | none => rfl
  | some move => cases refused

/-- A call that returns nothing changes nothing. -/
theorem call_eq_none {shell : Shell} {call : Call} (refused : (shell.call call).1 = none) :
    (shell.call call).2 = shell := by
  cases call with
  | navigate link => cases refused
  | replace link => cases refused
  | back => exact moved_eq_none refused
  | forward => exact moved_eq_none refused
  | current => rfl
  | render link => rfl

theorem moved_eq_none_iff {shell : Shell} {history? : Option History}
    (holds : ∀ history, history? = some history → ∃ visit, history.current? = some visit) :
    (shell.moved (history?.bind shell.moveTo?)).1 = none ↔ history? = none := by
  cases history? with
  | none => exact ⟨fun _ => rfl, fun _ => rfl⟩
  | some history =>
    obtain ⟨visit, current⟩ := holds history rfl
    rw [Option.bind_some, moveTo?_of_current? shell current, moved]
    simp only [reduceCtorEq]

/-- Going back returns nothing exactly when there is no older visit. -/
theorem back_eq_none_iff {shell : Shell} (trail : shell.history.IsTrail) :
    (shell.call .back).1 = none ↔ shell.history.canGoBack = false := by
  refine (moved_eq_none_iff fun moved => History.exists_current?_of_back? trail).trans ?_
  rw [History.back?]
  cases shell.history.canGoBack <;> simp

/-- Going forward returns nothing exactly when there is no newer visit. -/
theorem forward_eq_none_iff {shell : Shell} (trail : shell.history.IsTrail) :
    (shell.call .forward).1 = none ↔ shell.history.canGoForward = false := by
  refine (moved_eq_none_iff fun moved => History.exists_current?_of_forward? trail).trans ?_
  rw [History.forward?]
  cases shell.history.canGoForward <;> simp

/-- Runs on a shell are rendering over a history. Whatever was called on a shell since it was
built: following a link shows what the new shell renders for it; a revisit shows what the call
that made the visit returned; the history is that of the same changes; looking and moves that are
not possible change nothing; and the routes and the context are still those of the new shell. -/
theorem run_renders_history {config : Config} {registry : Registry} {context : AppContext}
    {supply : StampSupply} {shell : Shell}
    (built : build config registry context supply = .ok shell) (calls : List Call) :
    let reached := shell.after calls
    (∀ link, (reached.call (.navigate link)).1 = some (shell.render link) ∧
        (reached.call (.replace link)).1 = some (shell.render link)) ∧
      (∀ call screen, call.revisits = true → (reached.call call).1 = some screen →
        (∃ before maker later, calls ++ [call] = before ++ maker :: later ∧
            shell.MadeCurrent before maker later) ∧
          ∀ before maker later, calls ++ [call] = before ++ maker :: later →
            shell.MadeCurrent before maker later →
              (shell.after (calls ++ [call])).history.current? =
                  (shell.after (before ++ [maker])).history.current? ∧
                ((shell.after before).call maker).1 = some screen) ∧
      reached.history =
        ((History.ofCapacity config.history.capacity).run (changes supply calls)).2 ∧
      ((∀ link, (reached.call (.render link)).2 = reached) ∧
        (reached.call .current).2 = reached ∧
        (∀ call, (reached.call call).1 = none → (reached.call call).2 = reached) ∧
        ((reached.call .back).1 = none ↔ reached.history.canGoBack = false) ∧
        ((reached.call .forward).1 = none ↔ reached.history.canGoForward = false)) ∧
      reached.table = shell.table ∧ reached.context = context := by
  intro reached
  have state := ((build_eq_ok_iff config registry context supply shell).1 built).state
  have history : shell.history = History.ofCapacity config.history.capacity :=
    congrArg Shell.history state
  have trail : shell.history.IsTrail := history ▸ History.ofCapacity_isTrail _
  have new : shell.history.visits = [] := history ▸ rfl
  have reachedTrail : reached.history.IsTrail := after_history_isTrail trail calls
  refine ⟨fun link => ?_, fun call screen revisits shown => ?_, ?_, ?_, ?_⟩
  · have same : reached.render link = shell.render link :=
      congrFun (screenAt_after shell calls) (Location.parse link).pathname
    exact ⟨congrArg some same, congrArg some same⟩
  · refine current?_maker trail new ?_
    rw [after_concat]
    exact current?_of_revisits revisits shown
  · have supplied : shell.supply = supply := congrArg Shell.supply state
    rw [← history, ← supplied]
    exact after_history trail calls
  · exact ⟨fun link => rfl, rfl, fun call => call_eq_none, back_eq_none_iff reachedTrail,
      forward_eq_none_iff reachedTrail⟩
  · obtain ⟨visited, used, kept⟩ := after_setting shell calls
    have contextKept : shell.context = context := congrArg Shell.context state
    show (shell.after calls).table = shell.table ∧ (shell.after calls).context = context
    rw [kept]
    exact ⟨rfl, contextKept⟩

/-- With room for two visits, going back past a new one shows the replacement that it left. -/
theorem run_renders_history_replaced :
    let config : Config := { history := { capacity := 2 } }
    let calls := [Call.navigate "/", .navigate "/market", .replace "/wallet", .navigate "/support"]
    ∃ shell, build config Registry.standard ⟨default, "TradeDesk", TextMap.empty⟩
        { stamp := fun _ => default } = .ok shell ∧
      shell.MadeCurrent [.navigate "/", .navigate "/market"] (.replace "/wallet")
        [.navigate "/support", .back] ∧
      ∃ screen, ((shell.after calls).call .back).1 = some screen ∧
        ((shell.after [.navigate "/", .navigate "/market"]).call (.replace "/wallet")).1 =
          some screen := by
  intro config calls
  obtain ⟨shell, built, made, possible⟩ : ∃ shell,
      build config Registry.standard ⟨default, "TradeDesk", TextMap.empty⟩
        { stamp := fun _ => default } = .ok shell ∧
      shell.MadeCurrent [.navigate "/", .navigate "/market"] (.replace "/wallet")
        [.navigate "/support", .back] ∧
      ((shell.after calls).call .back).1.isSome = true := by
    refine ⟨_, rfl, ⟨rfl, ?_⟩, ?_⟩ <;> decide +kernel
  obtain ⟨screen, shown⟩ := Option.isSome_iff_exists.1 possible
  have revisited := ((run_renders_history built calls).2.1 .back screen rfl shown).2
  exact ⟨shell, built, made, screen, shown,
    (revisited [.navigate "/", .navigate "/market"] (.replace "/wallet") _ rfl made).2⟩

end Shell

end Wayfinder
