import Dialogue.Proofs.Run.Logged
/-!
How much a turn can do. The budget of steps of each run and the budget of runs bound the nodes that
a turn executes, whatever cycles its scenario has; a turn that has used up its runs fails.
-/
namespace Dialogue

namespace Program

variable {α : Type}

/-- What is left of some work once the world has answered `n` of its calls. -/
def fed (worlds : Nat → (call : Call) → call.Answer) : Nat → Program α → Program α
  | 0, p => p
  | _ + 1, .done a => .done a
  | n + 1, .ask call next => (next (worlds 0 call)).fed (fun k => worlds (k + 1)) n

theorem exists_fed_done (p : Program α) (worlds : Nat → (call : Call) → call.Answer) :
    ∃ n a, p.fed worlds n = .done a := by
  induction p generalizing worlds with
  | done a => exact ⟨0, a, rfl⟩
  | ask call next ih =>
      obtain ⟨n, a, h⟩ := ih (worlds 0 call) fun k => worlds (k + 1)
      exact ⟨n + 1, a, h⟩

end Program

namespace Run

/-- The scenario goes on past what is shown without waiting for the user. -/
def Result.passes (scenario : Scenario) : Result → Bool
  | .surfaced shown awaiting _ _ _ => !Turn.needsUser scenario shown awaiting
  | .ended _ _ _ _ _ | .refused _ _ _ => false

end Run

namespace Turn

open Run

section Generic

variable {m : Type → Type} [Monad m] (run : State → Input → m (Except Fault Result))

/-- Goes on after `last`, with further runs by `run` only. -/
def proceedBy (setting : Setting) :
    (runs : Nat) → List Result → (last : Result) → List Event → List Message →
      ExceptT Fault m Report
  | runs, earlier, last, events, messages =>
    let all := events ++ last.events
    match last with
    | .refused _ _ message =>
        let toast := Event.toast setting.context.session message "error"
        return ⟨earlier, last, all ++ [toast], messages⟩
    | .ended _ message _ _ _ => return ⟨earlier, last, all, messages ++ [.answered message]⟩
    | .surfaced shown awaiting slots _ _ =>
        let shownTo := messages ++ [.shown shown]
        if needsUser setting.context.scenario shown awaiting then
          return ⟨earlier, last, all, shownTo⟩
        else
          match runs with
          | 0 =>
              let final := exhausted setting.context.language slots
              return ⟨earlier ++ [last], final, all, shownTo ++ [.answered final.message]⟩
          | runs + 1 => do
              let next ← ExceptT.mk (run last.state .none)
              proceedBy setting runs (earlier ++ [last]) next all shownTo

/-- A turn whose runs are carried out by `run`. -/
def playBy (setting : Setting) (maxRuns : Nat) (session : Session) (input : Input) :
    ExceptT Fault m Report := do
  let first ← ExceptT.mk (run ⟨session.node, session.awaiting, session.slots⟩ input)
  proceedBy run setting maxRuns [] first [] (session.messages ++ said input)

variable {setting : Setting}

/-- What is told and written aside, a turn goes on by another run if there is something to pass and
a run is left. -/
theorem proceedBy_eq (runs : Nat) (earlier : List Result) (last : Result) (events : List Event)
    (messages : List Message) :
    ∃ told written, proceedBy run setting runs earlier last events messages =
      if last.passes setting.context.scenario then
        match runs with
        | 0 =>
            let final := exhausted setting.context.language last.slots
            pure ⟨earlier ++ [last], final, told, written⟩
        | runs + 1 => ExceptT.mk (run last.state .none) >>= fun next =>
            proceedBy run setting runs (earlier ++ [last]) next told written
      else pure ⟨earlier, last, told, written⟩ := by
  rw [proceedBy.eq_def]
  cases last with
  | refused shown slots message => exact ⟨_, _, rfl⟩
  | ended status message slots told steps => exact ⟨_, _, rfl⟩
  | surfaced shown awaiting slots told steps =>
      cases hneeds : needsUser setting.context.scenario shown awaiting with
      | true =>
          simp only [Result.passes, hneeds, if_true]
          exact ⟨_, _, rfl⟩
      | false =>
          simp only [Result.passes, hneeds, Bool.not_false, Bool.false_eq_true, if_true, if_false]
          cases runs with
          | zero => exact ⟨_, _, rfl⟩
          | succ runs => exact ⟨_, _, rfl⟩

end Generic

/-- A turn with all its runs and nodes entered in a logbook. -/
def playLogged (setting : Setting) (maxRuns : Nat) (session : Session) (input : Input) :
    Logged (Except Fault Report) :=
  (playBy (performLogged setting) setting maxRuns session input).run

section Erasure

variable {m : Type → Type} [Monad m] {R : {α : Type} → m α → Program α → Prop} (hR : Mirrors R)
include hR

theorem mirrors_attempt {α β : Type} {x : ExceptT Fault m α} {p : Attempt α}
    {f : α → ExceptT Fault m β} {g : α → Attempt β} (hx : R x.run p.run)
    (hf : ∀ a, R (f a).run (g a).run) : R (x >>= f).run (p >>= g).run := by
  rw [ExceptT.run_bind, ExceptT.run_bind]
  refine hR.bind hx fun r => ?_
  cases r with
  | ok a => exact hf a
  | error fault => exact hR.pure _

variable {setting : Setting} {run : State → Input → m (Except Fault Result)}
  (hrun : ∀ state input, R (run state input) (perform setting state input).run)
include hrun

theorem mirrors_further (runs : Nat) (earlier : List Result) (last : Result) (events : List Event)
    (messages : List Message) :
    R (proceedBy run setting runs earlier last events messages).run
      (proceed setting runs earlier last events messages).run := by
  induction runs generalizing earlier last events messages with
  | zero =>
      rw [proceedBy.eq_def, proceed.eq_def]
      cases last with
      | refused shown slots message => exact hR.pure _
      | ended status message slots told steps => exact hR.pure _
      | surfaced shown awaiting slots told steps =>
          simp only
          split <;> exact hR.pure _
  | succ runs ih =>
      rw [proceedBy.eq_def, proceed.eq_def]
      cases last with
      | refused shown slots message => exact hR.pure _
      | ended status message slots told steps => exact hR.pure _
      | surfaced shown awaiting slots told steps =>
          simp only
          split
          · exact hR.pure _
          · exact mirrors_attempt hR (hrun _ _) fun next => ih _ _ _ _

/-- A turn whose runs are the runs is the turn. -/
theorem mirrors_play (maxRuns : Nat) (session : Session) (input : Input) :
    R (playBy run setting maxRuns session input).run (play setting maxRuns session input).run :=
  mirrors_attempt hR (hrun _ _) fun first => mirrors_further hR hrun maxRuns [] first [] _

end Erasure

theorem erases_play (setting : Setting) (maxRuns : Nat) (session : Session) (input : Input) :
    Logged.Erases (playLogged setting maxRuns session input)
      (play setting maxRuns session input).run :=
  mirrors_play mirrors_fst (erases_perform setting) maxRuns session input

section Bounds

open Logged

variable {setting : Setting} {maxRuns : Nat}

/-- The last run came to something that the scenario goes on past. -/
def Unsettled (scenario : Scenario) (log : Logbook) : Prop :=
  ∃ last, log.runs.getLast? = some (.ok last) ∧ last.passes scenario = true

/-- The results of a report are those of the runs. Only if the runs are used up before the turn is
settled there is one more, the failure of the scenario. -/
structure Report.Accounts (setting : Setting) (maxRuns : Nat) (log : Logbook) (report : Report) :
    Prop where
  settled : ¬ Unsettled setting.context.scenario log → report.results.map .ok = log.runs
  unsettled : Unsettled setting.context.scenario log →
    log.runs.length = maxRuns + 1 ∧ report.earlier.map .ok = log.runs ∧
      ∃ message slots, report.last = .ended .failed message slots [] 0

structure Bounded (setting : Setting) (maxRuns : Nat) (outcome : Except Fault Report)
    (log : Logbook) : Prop where
  runs : log.runs.length ≤ maxRuns + 1
  executed : log.executed.length ≤ log.runs.length * setting.maxSteps
  report : ∀ report, outcome = .ok report → report.Accounts setting maxRuns log

theorem unsettled_iff {scenario : Scenario} {log : Logbook} {earlier : List Result} {last : Result}
    (h : log.runs = (earlier ++ [last]).map .ok) :
    Unsettled scenario log ↔ last.passes scenario = true := by
  have hlast : log.runs.getLast? = some (.ok last) := by simp [h]
  constructor
  · rintro ⟨found, hfound, hpasses⟩
    rw [hlast] at hfound
    cases hfound
    exact hpasses
  · exact fun hpasses => ⟨last, hlast, hpasses⟩

theorem bounded_settled {earlier : List Result} {last : Result} {log : Logbook}
    (hruns : log.runs = (earlier ++ [last]).map .ok) (hbudget : earlier.length ≤ maxRuns)
    (hexecuted : log.executed.length ≤ log.runs.length * setting.maxSteps)
    (hpasses : last.passes setting.context.scenario = false) (events : List Event)
    (messages : List Message) :
    Bounded setting maxRuns (.ok ⟨earlier, last, events, messages⟩) log := by
  refine ⟨by simpa [hruns] using hbudget, hexecuted, ?_⟩
  rintro report ⟨⟩
  refine ⟨fun _ => hruns.symm, fun hunsettled => ?_⟩
  rw [unsettled_iff hruns, hpasses] at hunsettled
  cases hunsettled

theorem bounded_exhausted {earlier : List Result} {last : Result} {log : Logbook}
    (hruns : log.runs = (earlier ++ [last]).map .ok) (hbudget : earlier.length = maxRuns)
    (hexecuted : log.executed.length ≤ log.runs.length * setting.maxSteps)
    (hpasses : last.passes setting.context.scenario = true) (slots : Slots) (events : List Event)
    (messages : List Message) :
    Bounded setting maxRuns
      (.ok ⟨earlier ++ [last], exhausted setting.context.language slots, events, messages⟩)
      log := by
  have hlength : log.runs.length = maxRuns + 1 := by simp [hruns, hbudget]
  refine ⟨hlength.le, hexecuted, ?_⟩
  rintro report ⟨⟩
  refine ⟨fun hsettled => ?_, fun _ => ⟨hlength, hruns.symm, _, _, rfl⟩⟩
  exact absurd ((unsettled_iff hruns).2 hpasses) hsettled

theorem bounded_broken {earlier : List (Except Fault Result)} {fault : Fault} {log : Logbook}
    (hruns : log.runs = earlier ++ [.error fault]) (hbudget : earlier.length ≤ maxRuns)
    (hexecuted : log.executed.length ≤ log.runs.length * setting.maxSteps) :
    Bounded setting maxRuns (.error fault) log :=
  ⟨by simpa [hruns] using hbudget, hexecuted, nofun⟩

/-- One more run: it either breaks off the turn or comes to the result from which `next` goes on. -/
theorem bounded_run (earlier : List Result) {state : State} {input : Input}
    {next : Result → ExceptT Fault Logged Report} {log : Logbook}
    (hruns : log.runs = earlier.map .ok) (hbudget : earlier.length ≤ maxRuns)
    (hexecuted : log.executed.length ≤ log.runs.length * setting.maxSteps)
    (hnext : ∀ result later, later.runs = (earlier ++ [result]).map .ok →
      later.executed.length ≤ later.runs.length * setting.maxSteps →
      Always (Bounded setting maxRuns) (next result).run later) :
    Always (Bounded setting maxRuns)
      (ExceptT.mk (performLogged setting state input) >>= next).run log := by
  rw [ExceptT.run_bind]
  refine always_bind.2 ((entered_perform setting state input log).mono ?_)
  rintro result later ⟨hlater, hmore⟩
  have hwithin : later.executed.length ≤ later.runs.length * setting.maxSteps := by
    calc later.executed.length
        ≤ log.executed.length + setting.maxSteps := hmore
      _ ≤ log.runs.length * setting.maxSteps + setting.maxSteps := Nat.add_le_add_right hexecuted _
      _ = later.runs.length * setting.maxSteps := by simp [hlater, Nat.succ_mul]
  cases result with
  | error fault => exact bounded_broken hlater (by simpa [hruns] using hbudget) hwithin
  | ok result => exact hnext result later (by simp [hlater, hruns]) hwithin

theorem bounded_proceed (runs : Nat) {earlier : List Result} {last : Result} (events : List Event)
    (messages : List Message) {log : Logbook} (hruns : log.runs = (earlier ++ [last]).map .ok)
    (hbudget : earlier.length + runs = maxRuns)
    (hexecuted : log.executed.length ≤ log.runs.length * setting.maxSteps) :
    Always (Bounded setting maxRuns)
      (proceedBy (performLogged setting) setting runs earlier last events messages).run log := by
  induction runs generalizing earlier last events messages log with
  | zero =>
      obtain ⟨told, written, heq⟩ := proceedBy_eq (performLogged setting) 0 earlier last events
        messages
      rw [heq]
      split
      · rename_i hpasses
        exact bounded_exhausted hruns hbudget hexecuted hpasses last.slots told written
      · rename_i hsettled
        exact bounded_settled hruns hbudget.le hexecuted (Bool.not_eq_true _ ▸ hsettled) told
          written
  | succ runs ih =>
      obtain ⟨told, written, heq⟩ := proceedBy_eq (performLogged setting) (runs + 1) earlier last
        events messages
      have hroom : earlier.length + 1 ≤ maxRuns := by omega
      rw [heq]
      split
      · refine bounded_run (earlier ++ [last]) hruns (by simpa using hroom) hexecuted ?_
        intro next later hlater hwithin
        exact ih told written hlater (by simp; omega) hwithin
      · rename_i hsettled
        exact bounded_settled hruns (Nat.le_of_succ_le hroom) hexecuted
          (Bool.not_eq_true _ ▸ hsettled) told written

theorem bounded_play (setting : Setting) (maxRuns : Nat) (session : Session) (input : Input) :
    Always (Bounded setting maxRuns) (playLogged setting maxRuns session input) .blank := by
  refine bounded_run [] rfl (Nat.zero_le _) (Nat.zero_le _) ?_
  intro first log hlog hwithin
  exact bounded_proceed maxRuns [] _ hlog (by simp) hwithin

theorem Report.Accounts.results_length {log : Logbook} {report : Report}
    (h : report.Accounts setting maxRuns log) (hruns : log.runs.length ≤ maxRuns + 1) :
    report.results.length ≤ maxRuns + 2 := by
  by_cases hunsettled : Unsettled setting.context.scenario log
  · obtain ⟨hlength, hearlier, -⟩ := h.unsettled hunsettled
    have hcount : report.earlier.length = maxRuns + 1 := by
      rw [← hlength, ← hearlier, List.length_map]
    simp [Report.results, hcount]
  · have hcount : report.results.length = log.runs.length := by
      rw [← h.settled hunsettled, List.length_map]
    omega

end Bounds

/-- A turn whose calls are all answered comes to an end. It is then over after at most `maxRuns + 1`
runs and as many times `maxSteps` nodes, and reports at most one result more than it has runs. If
its last run came to something that the scenario goes on past, the scenario ends as failed. -/
theorem turn_is_bounded (setting : Setting) (maxRuns : Nat) (session : Session) (input : Input) :
    Logged.Erases (playLogged setting maxRuns session input)
        (play setting maxRuns session input).run ∧
      (∀ worlds, ∃ calls outcome,
        (play setting maxRuns session input).run.fed worlds calls = .done outcome) ∧
      Logged.Always
        (fun outcome log =>
          log.runs.length ≤ maxRuns + 1 ∧
          log.executed.length ≤ (maxRuns + 1) * setting.maxSteps ∧
          ∀ report, outcome = .ok report →
            report.results.length ≤ maxRuns + 2 ∧ report.Accounts setting maxRuns log)
        (playLogged setting maxRuns session input) .blank := by
  refine ⟨erases_play setting maxRuns session input, Program.exists_fed_done _, ?_⟩
  refine (bounded_play setting maxRuns session input).mono fun outcome log h => ?_
  have hexecuted : log.executed.length ≤ (maxRuns + 1) * setting.maxSteps :=
    h.executed.trans (Nat.mul_le_mul_right _ h.runs)
  refine ⟨h.runs, hexecuted, fun report hreport => ?_⟩
  have haccounts := h.report report hreport
  exact ⟨haccounts.results_length h.runs, haccounts⟩

namespace Sample

/-- Two nodes that only show something and lead to each other. -/
def pingPong : Scenario where
  id := "ping-pong"
  name := "Ping-pong"
  description := ""
  nodes := [⟨"ping", "message", [("content", .text "Ping")]⟩,
    ⟨"pong", "message", [("content", .text "Pong")]⟩]
  edges := [⟨"e1", "ping", "pong", none⟩, ⟨"e2", "pong", "ping", none⟩]
  start := some "ping"

def rally : Setting := ⟨⟨pingPong, "s1", "en", ""⟩, ⟨2024, 1, 1⟩, 10⟩

def player : Session := { visitor with scenario := "ping-pong", node := none }

end Sample

/-- The bound on the results is reached: three runs and the failure. -/
example : ∃ report, play Sample.rally 2 Sample.player .none = pure report ∧
    report.results.length = 4 ∧ report.last.status? = some .failed :=
  ⟨_, rfl, by decide, rfl⟩

end Turn

end Dialogue
