import Dialogue.Notice
import Dialogue.Proofs.Node.Recovery
import Dialogue.Proofs.Program
import Dialogue.Proofs.Run.Failure
import Dialogue.Proofs.Turn.Bounded
/-!
How a failed completion without an error edge comes to the user. First the notice at the end of a
scenario: it can be shown whatever the id of the scenario, and it cannot be mistaken for the one
that tells of a failed completion.
-/
namespace Dialogue

namespace Format

variable {args : Mapping Value} {depth : Nat} {rest : List Piece} {name : List Char} {s : String}

theorem fillPieces_nil : fillPieces args (depth + 1) [] = .ok [] := rfl

theorem fillPieces_literal (c : Char) :
    fillPieces args (depth + 1) (.literal c :: rest) =
      (fillPieces args (depth + 1) rest).map (c :: ·) := by
  rw [fillPieces, fillPieces, List.mapM_cons]
  simp only [pure_bind, bind_assoc]
  generalize (List.mapM _ rest : Except Fault (List (List Char))) = texts
  cases texts <;> rfl

/-- A field without a layout shows a text as it is. -/
theorem fillPieces_field (h : find args name = .ok (.value (.text s))) :
    fillPieces args (depth + 1) (.field name none [] :: rest) =
      (fillPieces args (depth + 1) rest).map (s.toList ++ ·) := by
  rw [fillPieces, fillPieces, List.mapM_cons]
  simp only [h]
  generalize (List.mapM _ rest : Except Fault (List (List Char))) = texts
  cases texts <;> rfl

theorem fillPieces_literals (cs : List Char) :
    fillPieces args (depth + 1) (cs.map .literal ++ rest) =
      (fillPieces args (depth + 1) rest).map (cs ++ ·) := by
  induction cs with
  | nil => cases h : fillPieces args (depth + 1) rest <;> simp [h, Except.map]
  | cons c cs ih =>
      rw [List.map_cons, List.cons_append, fillPieces_literal, ih]
      cases fillPieces args (depth + 1) rest <;> rfl

end Format

namespace Notice

/-- What the notice of an ended scenario says before and after the id of the scenario. -/
def endedParts (language : String) : List Char × List Char :=
  if language = "ko" then ("'".toList, "' 시나리오가 종료되었습니다.".toList)
  else ("Scenario '".toList, "' has ended.".toList)

theorem pieces_ended (language : String) :
    Format.pieces .outside (ended.template language).toList =
      (endedParts language).1.map .literal ++ .field "scenario_id".toList none [] ::
        ((endedParts language).2.map .literal ++ []) := by
  unfold template endedParts
  split <;> decide +kernel

theorem render_ended (language id : String) :
    ended.render language [("scenario_id", .text id)] =
      .ok (String.ofList ((endedParts language).1 ++ (id.toList ++ (endedParts language).2))) := by
  have hfind : Format.find [("scenario_id", .text id)] "scenario_id".toList =
      .ok (.value (.text id)) := rfl
  rw [render, complete, Format.fill, pieces_ended, Format.fillPieces_literals,
    Format.fillPieces_field hfind, Format.fillPieces_literals, Format.fillPieces_nil]
  simp [Except.map, bind, Except.bind, pure, Except.pure]

theorem render_ended_ne {language id message : String}
    (h : ended.render language [("scenario_id", .text id)] = .ok message) :
    message ≠ completionFailed.text language := by
  rw [render_ended] at h
  obtain rfl := Except.ok.inj h
  intro hsame
  have hhead : (endedParts language).1.head? = (completionFailed.text language).toList.head? := by
    rw [← hsame, String.toList_ofList]
    unfold endedParts
    split <;> rfl
  revert hhead
  unfold endedParts text template
  split <;> decide +kernel

end Notice

end Dialogue

/-!
Runs that meet an llm node whose completion fails and that has no error edge. The run ends there. It
tells of the failed completion unless the failure has an empty reason, which the run takes for
none.
-/

namespace Dialogue

open Turn

/-- A step of a run, and what its node has heard from the world. -/
structure Encounter extends Footstep where
  heard : List Exchange

namespace Encounter

/-- What an llm node comes to agrees with the completion that it has heard. -/
def Settled (context : Node.Context) (encounter : Encounter) : Prop :=
  encounter.node.kind? = some .llm →
    Node.Llm.Settles context encounter.node encounter.found encounter.outcome encounter.heard

/-- The completion of an llm node has failed, and the node has no error edge. -/
structure Unrecovered (scenario : Scenario) (reason : String) (encounter : Encounter) : Prop where
  kind : encounter.node.kind? = some .llm
  stuck : scenario.edgeBy? encounter.node.id "onError" = none
  failed : Node.Failed encounter.heard reason

/-- The slots of an encounter with the flags of its failure. -/
def flagged (encounter : Encounter) (reason : String) : Slots :=
  Node.Llm.flagged encounter.found reason

variable {context : Node.Context} {encounter : Encounter} {reason : String}

theorem Unrecovered.outcome_eq (h : encounter.Unrecovered context.scenario reason)
    (hsettled : encounter.Settled context) :
    encounter.outcome = .ok (.fail (encounter.flagged reason) reason) :=
  ((hsettled h.kind).eq_fail h.failed).trans (Node.Llm.fail_of_none h.stuck)

/-- The reason is looked at for whether it is empty, not for whether it is there. -/
theorem Unrecovered.turning_eq (h : encounter.Unrecovered context.scenario reason)
    (hsettled : encounter.Settled context) (language : String) :
    encounter.turning language =
      if reason = "" then .leads none else .ends (.broken language .completionFailed) := by
  have houtcome := h.outcome_eq hsettled
  split
  · rename_i hempty
    simp [Footstep.turning, houtcome, Node.Effect.fail, hempty]
  · rename_i hreason
    rw [Run.turning_of_error houtcome rfl hreason, Run.failureNotice, if_pos h.kind]

end Encounter

namespace Run

abbrev Noted := StateT (List Encounter) Program

/-- Executes a node and notes the encounter. -/
def executeNoted (context : Node.Context) (node : Node) (slots : Slots) :
    Noted (Except Fault Node.Effect) := do
  let (outcome, heard) ← StateT.lift (node.execute context slots).run.recorded
  modify (· ++ [⟨⟨node, slots, outcome⟩, heard⟩])
  return outcome

/-- A run with all its encounters. -/
def performNoted (setting : Setting) (state : State) (input : Input) :
    Noted (Except Fault Result) :=
  (performBy (executeNoted setting.context) setting state input).run

/-- The run tells that a completion has failed. -/
def Reported (language : String) (outcome : Except Fault Result) : Prop :=
  ∃ slots events steps, outcome = .ok (failed language .completionFailed slots events steps)

/-- What a run comes to where a completion fails for good. -/
inductive Concludes (context : Node.Context) (misnamed : Prop) (reason : String) (slots : Slots) :
    Except Fault Result → Prop where
  | breaks {events : List Event} {steps : Nat} (named : ¬ misnamed) (told : reason ≠ "") :
      Concludes context misnamed reason slots
        (.ok (failed context.language .completionFailed slots events steps))
  | arrives {events : List Event} {steps : Nat} (named : ¬ misnamed) (untold : reason = "") :
      Concludes context misnamed reason slots (finish context slots events steps)
  | stumbles (unnamed : misnamed) : Concludes context misnamed reason slots (.error .invalidRecord)

/-- A failure for good is the last of the encounters and decides what they come to. -/
def Final (setting : Setting) (misnamed : Prop) (path : List Encounter)
    (outcome : Except Fault Result) : Prop :=
  ∀ k encounter reason, path[k]? = some encounter →
    encounter.Unrecovered setting.context.scenario reason →
    path.length = k + 1 ∧
      Concludes setting.context misnamed reason (encounter.flagged reason) outcome

section Noting

theorem executeNoted_run (context : Node.Context) (node : Node) (slots : Slots)
    (path : List Encounter) :
    (executeNoted context node slots).run path =
      (fun (outcome, heard) => (outcome, path ++ [⟨⟨node, slots, outcome⟩, heard⟩])) <$>
        (node.execute context slots).run.recorded := by
  simp only [executeNoted, StateT.run_bind, StateT.run_lift, map_eq_pure_bind, bind_assoc, pure_bind]
  rfl

theorem execute_settled (context : Node.Context) (node : Node) (slots : Slots) :
    (node.execute context slots).run.recorded.Always fun (outcome, heard) =>
      (Encounter.mk ⟨node, slots, outcome⟩ heard).Settled context := by
  by_cases hkind : node.kind? = some .llm
  · rw [Node.execute, hkind]
    exact (Node.Llm.execute_settles context node slots).mono fun _ hsettles _ => hsettles
  · exact Program.always_of_forall (fun _ hllm => absurd hllm hkind) _

theorem notes_noted (context : Node.Context) :
    Notes Encounter.toFootstep (Encounter.Settled context) (executeNoted context) := by
  intro node slots path
  rw [executeNoted_run]
  refine Program.always_map.2 ((execute_settled context node slots).mono ?_)
  exact fun (outcome, heard) hsettled => ⟨⟨⟨node, slots, outcome⟩, heard⟩, rfl, rfl, hsettled⟩

/-- The encounters are only noted: without them the run is the run. -/
theorem fst_performNoted (setting : Setting) (state : State) (input : Input)
    (path : List Encounter) :
    Prod.fst <$> (performNoted setting state input).run path =
      (perform setting state input).run := by
  refine mirrors_perform mirrors_fst (fun node slots path => ?_) state input path
  rw [executeNoted_run, ← comp_map]
  exact Program.fst_recorded _

end Noting

section Conclusions

variable {setting : Setting} {state : State} {input : Input} {misnamed : Prop} {reason : String}
  {slots : Slots} {outcome : Except Fault Result} {path : List Encounter} {encounter : Encounter}
  {k : Nat}

theorem Walks.concludes {remaining steps : Nat} {next : Option Node} {events : List Event}
    (h : Walks setting.context remaining steps next slots events
      (path.map Encounter.toFootstep) outcome)
    (hnamed : ¬ misnamed) (hsettled : encounter.Settled setting.context)
    (hk : path[k]? = some encounter)
    (hstuck : encounter.Unrecovered setting.context.scenario reason) :
    path.length = k + 1 ∧
      Concludes setting.context misnamed reason (encounter.flagged reason) outcome := by
  have hstep : (path.map Encounter.toFootstep)[k]? = some encounter.toFootstep := by
    rw [List.getElem?_map, hk, Option.map_some]
  have hturn := hstuck.turning_eq hsettled setting.context.language
  have hleft : encounter.left = encounter.flagged reason := by
    rw [Footstep.left, hstuck.outcome_eq hsettled]
    rfl
  have hlength : path.length = k + 1 := by
    rw [← List.length_map Encounter.toFootstep]
    refine h.length_of_last hstep fun node => ?_
    rw [hturn]
    split <;> simp
  refine ⟨hlength, ?_⟩
  by_cases hreason : reason = ""
  · rw [if_pos hreason] at hturn
    obtain ⟨told, rfl⟩ := h.arrived hstep hturn
    rw [hleft]
    exact .arrives hnamed hreason
  · rw [if_neg hreason] at hturn
    rw [h.ended hstep hturn, leftBy_take_succ _ hstep, hstuck.outcome_eq hsettled]
    exact .breaks hnamed hreason

theorem Courses.concludes
    (h : Courses setting state input (path.map Encounter.toFootstep) outcome)
    (hsettled : encounter.Settled setting.context) (hk : path[k]? = some encounter)
    (hstuck : encounter.Unrecovered setting.context.scenario reason) :
    path.length = k + 1 ∧ Concludes setting.context (Misnamed setting state input) reason
      (encounter.flagged reason) outcome := by
  have hlt : k < path.length := (List.getElem?_eq_some_iff.1 hk).1
  generalize hsteps : path.map Encounter.toFootstep = steps at h
  have hlength : path.length = steps.length := by rw [← hsteps, List.length_map]
  cases h with
  | stays named =>
      rw [hlength] at hlt
      cases hlt
  | stumbles misnamed short => exact ⟨by omega, .stumbles misnamed⟩
  | walks named goes => exact (hsteps ▸ goes).concludes named hsettled hk hstuck

theorem Courses.eq_of_misnamed {path : List Footstep} (h : Courses setting state input path outcome)
    (hmisnamed : Misnamed setting state input) : outcome = .error .invalidRecord := by
  cases h with
  | stays named => exact absurd hmisnamed named
  | stumbles misnamed short => rfl
  | walks named goes => exact absurd hmisnamed named

theorem performNoted_final (setting : Setting) (state : State) (input : Input)
    (path : List Encounter) :
    ((performNoted setting state input).run path).Always fun (outcome, later) =>
      ∃ rest, later = path ++ rest ∧
        (Misnamed setting state input → outcome = .error .invalidRecord) ∧
        Final setting (Misnamed setting state input) rest outcome := by
  refine (performBy_courses (notes_noted setting.context) setting state input path).mono ?_
  rintro ⟨outcome, later⟩ ⟨rest, hlater, hsettled, hcourse⟩
  refine ⟨rest, hlater, hcourse.eq_of_misnamed, fun k encounter reason hk hstuck => ?_⟩
  exact hcourse.concludes (hsettled encounter (List.mem_of_getElem? hk)) hk hstuck

/-- The notice at the end of a scenario is another one than that of a failed completion. -/
theorem not_reported_finish {context : Node.Context} {events : List Event} {steps : Nat} :
    ¬ Reported context.language (finish context slots events steps) := by
  rintro ⟨_, _, _, hfailed⟩
  obtain ⟨message, hmessage, hended⟩ := exists_of_bind_ok hfailed
  have hsame := congrArg Result.message (Except.ok.inj hended)
  exact Notice.render_ended_ne hmessage hsame

theorem Concludes.reported_iff {context : Node.Context}
    (h : Concludes context misnamed reason slots outcome) :
    Reported context.language outcome ↔ reason ≠ "" ∧ ¬ misnamed := by
  cases h with
  | breaks named told => exact iff_of_true ⟨_, _, _, rfl⟩ ⟨told, named⟩
  | arrives named untold => exact iff_of_false not_reported_finish fun h => h.1 untold
  | stumbles unnamed => exact iff_of_false nofun fun h => h.2 unnamed

end Conclusions

end Run

end Dialogue

/-!
Turns that meet an llm node whose completion fails and that has no error edge. No run follows the one
that met it, so the turn comes to what that run has come to.
-/

namespace Dialogue.Turn

open Run

/-- A turn with all its encounters. -/
def playNoted (setting : Setting) (maxRuns : Nat) (session : Session) (input : Input) :
    Noted (Except Fault Report) :=
  (playBy (performNoted setting) setting maxRuns session input).run

variable {setting : Setting} {misnamed : Prop} {path rest : List Encounter} {last : Result}
  {outcome : Except Fault Result}

/-- The encounters are only noted: without them the turn is the turn. -/
theorem fst_playNoted (setting : Setting) (maxRuns : Nat) (session : Session) (input : Input)
    (path : List Encounter) :
    Prod.fst <$> (playNoted setting maxRuns session input).run path =
      (play setting maxRuns session input).run :=
  mirrors_play mirrors_fst (fst_performNoted setting) maxRuns session input path

theorem not_passes_of_concludes {context : Node.Context} {reason : String} {slots : Slots}
    (h : Concludes context misnamed reason slots (.ok last)) :
    last.passes context.scenario = false := by
  generalize houtcome : Except.ok last = outcome at h
  cases h with
  | breaks named told =>
      cases houtcome
      rfl
  | arrives named untold =>
      obtain ⟨message, -, hended⟩ := exists_of_bind_ok houtcome.symm
      cases hended
      rfl
  | stumbles unnamed => cases houtcome

theorem concludes_of_named {context : Node.Context} {other : Prop} {reason : String} {slots : Slots}
    (h : Concludes context other reason slots outcome) (hother : ¬ other) (hnamed : ¬ misnamed) :
    Concludes context misnamed reason slots outcome := by
  cases h with
  | breaks named told => exact .breaks hnamed told
  | arrives named untold => exact .arrives hnamed untold
  | stumbles unnamed => exact absurd unnamed hother

/-- Where the turn goes on, nothing has failed for good. -/
theorem not_unrecovered_of_passes (h : Final setting misnamed path (.ok last))
    (hpasses : last.passes setting.context.scenario = true) {k : Nat} {encounter : Encounter}
    {reason : String} (hk : path[k]? = some encounter) :
    ¬ encounter.Unrecovered setting.context.scenario reason := by
  intro hstuck
  have hnot := not_passes_of_concludes (h k encounter reason hk hstuck).2
  rw [hpasses] at hnot
  cases hnot

theorem final_append (h : Final setting misnamed path (.ok last))
    (hpasses : last.passes setting.context.scenario = true)
    (hrest : Final setting misnamed rest outcome) :
    Final setting misnamed (path ++ rest) outcome := by
  intro k encounter reason hk hstuck
  by_cases hlt : k < path.length
  · rw [List.getElem?_append_left hlt] at hk
    exact absurd hstuck (not_unrecovered_of_passes h hpasses hk)
  · rw [List.getElem?_append_right (Nat.le_of_not_lt hlt)] at hk
    obtain ⟨hlength, hconcludes⟩ := hrest _ encounter reason hk hstuck
    refine ⟨?_, hconcludes⟩
    rw [List.length_append, hlength]
    omega

theorem awaiting_of_passes {scenario : Scenario} (h : last.passes scenario = true) :
    last.state.awaiting = false := by
  cases last with
  | refused shown slots message => cases h
  | ended status message slots events steps => cases h
  | surfaced shown awaiting slots events steps =>
      cases awaiting with
      | false => rfl
      | true => cases h

theorem further_final (hnamed : ¬ misnamed) (runs : Nat) (earlier : List Result)
    (events : List Event) (messages : List Message) (h : Final setting misnamed path (.ok last)) :
    ((proceedBy (performNoted setting) setting runs earlier last events messages).run.run
      path).Always fun (outcome, later) =>
        Final setting misnamed later (outcome.map Report.last) := by
  induction runs generalizing earlier last events messages path with
  | zero =>
      obtain ⟨told, written, heq⟩ := proceedBy_eq (performNoted setting) 0 earlier last events
        messages
      rw [heq]
      split
      · rename_i hpasses
        exact fun k encounter reason hk hstuck =>
          absurd hstuck (not_unrecovered_of_passes h hpasses hk)
      · exact h
  | succ runs ih =>
      obtain ⟨told, written, heq⟩ := proceedBy_eq (performNoted setting) (runs + 1) earlier last
        events messages
      rw [heq]
      split
      · rename_i hpasses
        have hother : ¬ Misnamed setting last.state .none :=
          not_misnamed_of_not_awaiting (awaiting_of_passes hpasses)
        rw [ExceptT.run_bind, ExceptT.run_mk, StateT.run_bind]
        refine Program.always_bind.2 ((performNoted_final setting last.state .none path).mono ?_)
        rintro ⟨outcome, later⟩ ⟨rest, rfl, -, hrest⟩
        have hfinal : Final setting misnamed (path ++ rest) outcome :=
          final_append h hpasses fun k encounter reason hk hstuck =>
            (hrest k encounter reason hk hstuck).imp_right
              fun hconcludes => concludes_of_named hconcludes hother hnamed
        cases outcome with
        | error fault => exact hfinal
        | ok next => exact ih _ _ _ hfinal
      · exact h

/-- What a turn comes to where a completion fails for good is what its last run comes to. -/
theorem playNoted_final (setting : Setting) (maxRuns : Nat) (session : Session) (input : Input) :
    ((playNoted setting maxRuns session input).run []).Always fun (outcome, path) =>
      Final setting (Misnamed setting ⟨session.node, session.awaiting, session.slots⟩ input) path
        (outcome.map Report.last) := by
  rw [playNoted, playBy, ExceptT.run_bind, ExceptT.run_mk, StateT.run_bind]
  refine Program.always_bind.2 ((performNoted_final setting _ input []).mono ?_)
  rintro ⟨outcome, later⟩ ⟨rest, rfl, hmisnamed, hfinal⟩
  cases outcome with
  | error fault => exact hfinal
  | ok first => exact further_final (fun h => nomatch hmisnamed h) maxRuns [] [] _ hfinal

end Dialogue.Turn
