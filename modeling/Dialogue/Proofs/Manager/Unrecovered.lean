import Dialogue.Proofs.Manager.Outcome
import Dialogue.Proofs.Turn.Encounter
/-!
What becomes of a session whose turn meets an llm node with a failed completion and no error edge.
The session has failed if the failure has a reason, and is completed as if nothing had happened if
it has none and no api call has failed before.
-/
namespace Dialogue

namespace Run

/-- The slots tell of a failed api call. -/
def LastCallFailed (slots : Slots) : Prop :=
  ((Mapping.get? slots "apiFailed").getD .null).truthy = true

/-- The session fails: for the reason itself, for slots that cannot be used, or for an api call. -/
def Fails (misnamed : Prop) (reason : String) (slots : Slots) : Prop :=
  reason ≠ "" ∨ misnamed ∨ LastCallFailed slots

variable {context : Node.Context} {misnamed : Prop} {reason : String} {slots : Slots}

theorem lastCallFailed_flagged (encounter : Encounter) (reason : String) :
    LastCallFailed (encounter.flagged reason) ↔ LastCallFailed encounter.found := by
  simp [LastCallFailed, Encounter.flagged, Node.Llm.flagged]

theorem Concludes.of_error {fault : Fault}
    (h : Concludes context misnamed reason slots (.error fault)) : misnamed := by
  generalize houtcome : Except.error fault = outcome at h
  cases h with
  | breaks named told => cases houtcome
  | arrives named untold =>
      rw [finish, Notice.render_ended] at houtcome
      cases houtcome
  | stumbles unnamed => exact unnamed

theorem Concludes.of_ok {last : Result}
    (h : Concludes context misnamed reason slots (.ok last)) :
    last.status? = some .failed ∧ Fails misnamed reason slots ∨
      last.status? = some .completed ∧ ¬ Fails misnamed reason slots := by
  generalize houtcome : Except.ok last = outcome at h
  cases h with
  | breaks named told =>
      cases houtcome
      exact .inl ⟨rfl, .inl told⟩
  | arrives named untold =>
      rw [finish, Notice.render_ended] at houtcome
      obtain rfl := Except.ok.inj houtcome
      by_cases hcall : LastCallFailed slots
      · exact .inl ⟨congrArg some (if_pos hcall), .inr (.inr hcall)⟩
      · refine .inr ⟨congrArg some (if_neg hcall), ?_⟩
        rintro (hreason | hmisnamed | hfailed)
        · exact hreason untold
        · exact named hmisnamed
        · exact hcall hfailed
  | stumbles unnamed => cases houtcome

end Run

open Run Turn

theorem Turn.Report.change_status {report : Report} {status : Status}
    (h : report.last.status? = some status) : report.change.status = some status := by
  unfold Report.change
  cases hlast : report.last with
  | refused shown slots message =>
      rw [hlast] at h
      cases h
  | ended ending message slots events steps =>
      rw [hlast] at h
      exact h
  | surfaced shown awaiting slots events steps =>
      rw [hlast] at h
      cases h

namespace Manager

variable {context : Node.Context} {misnamed : Prop} {reason : String} {slots : Slots}

/-- The status that a turn writes where a completion fails for good. -/
theorem change_of_concludes (turn : Pending) {outcome : Except Fault Report}
    (h : Concludes context misnamed reason slots (outcome.map Report.last)) :
    (turn.change (.settled outcome)).status = some .failed ∧ Fails misnamed reason slots ∨
      (turn.change (.settled outcome)).status = some .completed ∧
        ¬ Fails misnamed reason slots := by
  cases outcome with
  | error fault => exact .inl ⟨rfl, .inr (.inl h.of_error)⟩
  | ok report =>
      refine h.of_ok.imp ?_ ?_
      · exact fun ⟨hstatus, hfails⟩ => ⟨Report.change_status hstatus, hfails⟩
      · exact fun ⟨hstatus, hnot⟩ => ⟨Report.change_status hstatus, hnot⟩

theorem status_revise {s : Session} {now : Moment} {change : Session.Change} {status : Status}
    (h : change.status = some status) : (s.revise now change).storable.status = status := by
  simp [Session.storable, Session.revise, Session.Change.apply, h]

/-- A run ends where a completion fails for good. It tells so exactly if the failure has a reason;
without one the session is completed unless an api call has failed before. The slots that the run
starts with must be named. -/
theorem failed_completion_reported_iff (setting : Setting) :
    (∀ state input,
      (∀ path, Prod.fst <$> (performNoted setting state input).run path =
        (Run.perform setting state input).run) ∧
      ((performNoted setting state input).run []).Always fun (outcome, path) =>
        ∀ k encounter reason, path[k]? = some encounter →
          encounter.Unrecovered setting.context.scenario reason →
          path.length = k + 1 ∧ (Reported setting.context.language outcome ↔
            reason ≠ "" ∧ ¬ Misnamed setting state input)) ∧
    ∀ maxRuns session input,
      (∀ path, Prod.fst <$> (playNoted setting maxRuns session input).run path =
        (play setting maxRuns session input).run) ∧
      ((playNoted setting maxRuns session input).run []).Always fun (outcome, path) =>
        ∀ k encounter reason, path[k]? = some encounter →
          encounter.Unrecovered setting.context.scenario reason →
          path.length = k + 1 ∧
          ∀ house during turn, Reachable house during → turn ∈ during.pending →
            turn.work = .done outcome → during.session? turn.marked.id = .ok (some turn.marked) →
            let fails := Fails
              (Misnamed setting ⟨session.node, session.awaiting, session.slots⟩ input) reason
              encounter.found
            ∃ after,
              (during.close house turn (.settled outcome)).2.session? turn.marked.id
                = .ok (some after) ∧
              (after.status = .failed ∧ fails ∨ after.status = .completed ∧ ¬ fails) := by
  refine ⟨fun state input => ⟨fst_performNoted setting state input, ?_⟩,
    fun maxRuns session input => ⟨fst_playNoted setting maxRuns session input, ?_⟩⟩
  · refine (performNoted_final setting state input []).mono ?_
    rintro ⟨outcome, path⟩ ⟨_, rfl, -, hfinal⟩ k encounter reason hk hstuck
    obtain ⟨hlength, hconcludes⟩ := hfinal k encounter reason hk hstuck
    exact ⟨hlength, hconcludes.reported_iff⟩
  · refine (playNoted_final setting maxRuns session input).mono ?_
    rintro ⟨outcome, path⟩ hfinal k encounter reason hk hstuck
    obtain ⟨hlength, hconcludes⟩ := hfinal k encounter reason hk hstuck
    refine ⟨hlength, fun house during turn hreachable hmem hwork hcurrent => ?_⟩
    have h := hreachable.sound
    rw [session?_eq h.orderly] at hcurrent
    have hafter := record?_close_current h (Except.ok.inj hcurrent) house (.settled outcome)
    refine ⟨_, (session?_eq (h.close house hmem _).orderly _).trans (congrArg Except.ok hafter), ?_⟩
    rw [Fails, ← lastCallFailed_flagged encounter reason]
    refine (change_of_concludes turn hconcludes).imp ?_ ?_
    · exact fun ⟨hstatus, hfails⟩ => ⟨status_revise hstatus, hfails⟩
    · exact fun ⟨hstatus, hnot⟩ => ⟨status_revise hstatus, hnot⟩

end Manager

namespace Sample

/-- A world in which completions fail. -/
def failing (reason : String) : (call : Call) → call.Answer
  | .complete _ _ => .error (.completion reason)
  | .stream _ _ => .error (.completion reason)
  | call => world call

def visit : Setting := Manager.setting house scenario "s1" "en"

/-- What the first run of the scenario comes to, with its encounters. -/
def visited (reason : String) : Except Fault Result × List Encounter :=
  ((performNoted visit .initial .none).run []).outcome (failing reason)

/-- Its completion has failed, and the turn of the session is still to be settled. -/
def unsettled (reason : String) : Manager :=
  start.after house [.create (.text "c") (.text "chat") .null (.text "en"),
    .begin "s1" (.bare .null), .answer 1 (failing reason)]

/-- What the turn of a session comes to. -/
def played (turn : Pending) (reason : String) : Except Fault Report × List Encounter :=
  ((playNoted visit house.maxRuns turn.marked turn.input).run []).outcome (failing reason)

end Sample

namespace Manager

set_option maxRecDepth 8000 in
theorem told_failure_fails_session :
    (∃ encounter, (Sample.visited "down").2[0]? = some encounter ∧
      encounter.Unrecovered Sample.scenario "down" ∧
      Reported "en" (Sample.visited "down").1) ∧
    ∃ turn encounter after, (Sample.unsettled "down").pending = [turn] ∧
      turn.work = .done (Sample.played turn "down").1 ∧
      (Sample.played turn "down").2[0]? = some encounter ∧
      encounter.Unrecovered Sample.scenario "down" ∧
      ((Sample.unsettled "down").close Sample.house turn
        (.settled (Sample.played turn "down").1)).2.session? turn.marked.id = .ok (some after) ∧
      after.status = .failed := by
  obtain ⟨hruns, hturns⟩ := failed_completion_reported_iff Sample.visit
  constructor
  · obtain ⟨encounter, hk, hstuck⟩ : ∃ encounter, (Sample.visited "down").2[0]? = some encounter ∧
        encounter.Unrecovered Sample.scenario "down" := ⟨_, rfl, rfl, rfl, .head _⟩
    obtain ⟨-, hreported⟩ :=
      (hruns .initial .none).2.outcome (Sample.failing "down") 0 encounter "down" hk hstuck
    have hnamed : ¬ Misnamed Sample.visit .initial .none := not_misnamed_of_not_awaiting rfl
    exact ⟨encounter, hk, hstuck, hreported.2 ⟨by decide, hnamed⟩⟩
  · obtain ⟨turn, encounter, hpending, hwork, hcurrent, hk, hstuck⟩ :
        ∃ turn encounter, (Sample.unsettled "down").pending = [turn] ∧
          turn.work = .done (Sample.played turn "down").1 ∧
          (Sample.unsettled "down").session? turn.marked.id = .ok (some turn.marked) ∧
          (Sample.played turn "down").2[0]? = some encounter ∧
          encounter.Unrecovered Sample.scenario "down" :=
      ⟨_, _, rfl, rfl, rfl, rfl, rfl, rfl, .head _⟩
    have hmem : turn ∈ (Sample.unsettled "down").pending := hpending ▸ .head _
    obtain ⟨-, hsettled⟩ := (hturns Sample.house.maxRuns turn.marked turn.input).2.outcome
      (Sample.failing "down") 0 encounter "down" hk hstuck
    obtain ⟨after, hafter, ⟨hstatus, -⟩ | ⟨-, hnot⟩⟩ :=
      hsettled Sample.house (Sample.unsettled "down") turn ⟨_, _, _, rfl⟩ hmem hwork hcurrent
    · exact ⟨turn, encounter, after, hpending, hwork, hk, hstuck, hafter, hstatus⟩
    · exact absurd (.inl (by decide)) hnot

/-- The completion has failed, but without a reason. -/
theorem silent_failure_completes :
    ∃ encounter, (Sample.visited "").2[0]? = some encounter ∧
      encounter.Unrecovered Sample.scenario "" ∧
      (Sample.visited "").1 = .ok (.ended .completed "Scenario 'chat' has ended."
        [("llmError", .text ""), ("llmFailed", .bool true)] [] 1) ∧
      ¬ Reported "en" (Sample.visited "").1 := by
  have hended : (Sample.visited "").1 = .ok (.ended .completed "Scenario 'chat' has ended."
      [("llmError", .text ""), ("llmFailed", .bool true)] [] 1) := rfl
  refine ⟨_, rfl, ⟨rfl, rfl, .head _⟩, hended, ?_⟩
  rw [hended]
  rintro ⟨slots, events, steps, ⟨⟩⟩

end Manager

end Dialogue
