import Dialogue.Proofs.Turn.Journey
/-!
The report of a turn, told again from the path that it took: what its runs came to, its events in
the order of the path, and the transcript with an entry for each node that was shown.
-/
namespace Dialogue.Turn

open Attempt Run

/-- The runs that a path is made of. Each but the last ends where a node is shown in passing. -/
def legs (language : String) (ending : Ending) :
    Slots → List Event → (steps : Nat) → List Footstep → List Result × Result
  | slots, events, steps, [] => ([], ending.result slots events steps)
  | _, events, steps, step :: rest =>
      match step.passed? language with
      | some shown =>
          let later := legs language ending step.left [] 0 rest
          (.surfaced shown false step.left (events ++ step.events) (steps + 1) :: later.1, later.2)
      | none => legs language ending step.left (events ++ step.events) (steps + 1) rest

/-- The report of a turn that goes this way, after `earlier` runs and with the slots, the events and
the steps of the run that is under way. -/
def Way.report (context : Node.Context) (earlier : List Result) (told : List Event)
    (messages : List Message) (slots : Slots) (events : List Event) (steps : Nat) (way : Way) :
    Except Fault Report :=
  way.ending.map fun ending =>
    let runs := legs context.language ending slots events steps way.path
    { earlier := earlier ++ runs.1
      last := runs.2
      events := told ++ (events ++ way.path.flatMap Footstep.events ++ ending.events context.session)
      messages := messages ++
        (way.path.filterMap (Footstep.passed? context.language)).map Message.shown ++
        ending.entries }

def Journey.report (context : Node.Context) (session : Session) (input : Input)
    (journey : Journey) : Except Fault Report :=
  journey.toWay.report context [] [] (session.messages ++ said input) journey.outset [] 0

section Reports

variable {setting : Setting} {earlier : List Result} {told events : List Event}
  {messages : List Message} {slots : Slots} {steps : Nat}

theorem finish_eq (context : Node.Context) (slots : Slots) (events : List Event) (steps : Nat) :
    finish context slots events steps =
      (Ending.arrival context slots).map (Ending.result slots events steps) := by
  unfold finish Ending.arrival
  cases Notice.ended.render context.language [("scenario_id", .text context.scenario.id)] <;> rfl

theorem walk_step (context : Node.Context) (remaining steps : Nat) (node : Node) (slots : Slots)
    (events : List Event) :
    walk context (remaining + 1) steps (some node) slots events =
      ExceptT.lift (node.execute context slots).run >>= fun outcome =>
        let step : Footstep := ⟨node, slots, outcome⟩
        match step.turning context.language with
        | .ends ending => pure (ending.result step.left (events ++ step.events) (steps + 1))
        | .leads next =>
            walk context remaining (steps + 1) next step.left (events ++ step.events)
        | .shows shown =>
            pure (.surfaced shown false step.left (events ++ step.events) (steps + 1)) := by
  rw [walk]
  refine bind_congr fun outcome => ?_
  cases outcome with
  | error fault =>
      simp [Footstep.turning, Footstep.left, Footstep.events, Ending.broken, Ending.result, failed,
        Except.toOption]
  | ok effect =>
      simp only [Footstep.turning, Footstep.left, Footstep.events, Except.toOption, Option.elim]
      split
      · rfl
      · rename_i hsound
        obtain ⟨next, waits, after, all, error⟩ := effect
        cases waits with
        | false => rfl
        | true =>
            cases next with
            | none => rfl
            | some waiting =>
                simp only [surface]
                cases waiting.render after with
                | error fault => rfl
                | ok shown =>
                    by_cases hpasses : waiting.isDisplay = true
                    · simp [hpasses, (Node.kind_of_isDisplay hpasses).1]
                    · simp [hpasses, Ending.result]

theorem proceed_exhausted {shown : Node}
    (h : needsUser setting.context.scenario shown false = false) :
    (proceed setting 0 earlier (.surfaced shown false slots events steps) told messages).run =
      .done (Way.report setting.context (earlier ++ [.surfaced shown false slots events steps])
        (told ++ events) (messages ++ [.shown shown]) slots [] 0
        ⟨[], .ok (.broken setting.context.language .unexpected)⟩) := by
  unfold proceed
  simp [h, Way.report, legs, Ending.broken, Ending.result, Ending.events, Ending.entries, Except.map,
    Result.events, exhausted, Result.message]
  rfl

theorem perform_shown (hs : setting.context.scenario.defects = []) {node shown : Node}
    (hn : node ∈ setting.context.scenario.nodes) (hne : node.id ≠ "") (hid : shown.id = node.id)
    (slots : Slots) :
    perform setting ⟨some shown.id, false, slots⟩ .none =
      match setting.context.scenario.next (some node.id) none slots with
      | .ok next => walk setting.context setting.maxSteps 0 next slots []
      | .error _ => pure (failed setting.context.language .unexpected slots [] 0) := by
  have hcurrent : (some node.id).filter (· ≠ "") = some node.id := by simp [hne]
  unfold perform
  simp only [hid, hcurrent, Scenario.node?_of_mem hs hn hne]
  rfl

theorem proceed_shown (runs : Nat) {shown : Node}
    (h : needsUser setting.context.scenario shown false = false) :
    proceed setting (runs + 1) earlier (.surfaced shown false slots events steps) told messages =
      perform setting ⟨some shown.id, false, slots⟩ .none >>= fun next =>
        proceed setting runs (earlier ++ [.surfaced shown false slots events steps]) next
          (told ++ events) (messages ++ [.shown shown]) := by
  rw [proceed]
  simp [h, Result.events, Result.state, Result.node, Result.shown?, Result.awaiting, Result.slots]

theorem proceed_settled (runs : Nat) {ending : Ending}
    (h : ending.Settled setting.context.scenario) :
    (proceed setting runs earlier (ending.result slots events steps) told messages).run =
      .done (Way.report setting.context earlier told messages slots events steps
        ⟨[], .ok ending⟩) := by
  have hreport : Way.report setting.context earlier told messages slots events steps
      ⟨[], .ok ending⟩ = .ok ⟨earlier, ending.result slots events steps,
        told ++ (events ++ ending.events setting.context.session), messages ++ ending.entries⟩ := by
    simp [Way.report, Except.map, legs]
  rw [hreport]
  cases ending with
  | halted status message =>
      unfold proceed
      simp [Ending.result, Ending.events, Ending.entries, Result.events]
      rfl
  | resting shown awaiting =>
      unfold proceed
      have hneeds : needsUser setting.context.scenario shown awaiting = true := h
      simp [Ending.result, Ending.events, Ending.entries, Result.events, hneeds]
      rfl
  | refused shown message => exact h.elim

theorem report_on (context : Node.Context) {step : Footstep}
    (h : step.passed? context.language = none) (way : Way) :
    Way.report context earlier told messages slots events steps (way.after step) =
      Way.report context earlier told messages step.left (events ++ step.events) (steps + 1) way := by
  simp [Way.report, Way.after, legs, h]

theorem report_past (context : Node.Context) {step : Footstep} {shown : Node}
    (h : step.passed? context.language = some shown) (way : Way) :
    Way.report context earlier told messages slots events steps (way.after step) =
      Way.report context
        (earlier ++ [.surfaced shown false step.left (events ++ step.events) (steps + 1)])
        (told ++ (events ++ step.events)) (messages ++ [.shown shown]) step.left [] 0 way := by
  simp [Way.report, Way.after, legs, h]

theorem walk_end (context : Node.Context) (remaining steps : Nat) (slots : Slots)
    (events : List Event) :
    walk context remaining steps none slots events =
      Attempt.of ((Ending.arrival context slots).map (Ending.result slots events steps)) := by
  rw [← finish_eq]
  cases remaining <;> rfl

theorem arrival_settled {scenario : Scenario} {context : Node.Context} {ending : Ending}
    (h : Ending.arrival context slots = .ok ending) : ending.Settled scenario := by
  obtain ⟨_, -, h⟩ := exists_of_bind_ok h
  cases h
  trivial

theorem proceed_end (runs remaining : Nat) :
    (walk setting.context remaining steps none slots events >>= fun last =>
        proceed setting runs earlier last told messages).run =
      .done (Way.report setting.context earlier told messages slots events steps
        ⟨[], Ending.arrival setting.context slots⟩) := by
  rw [walk_end]
  cases harrival : Ending.arrival setting.context slots with
  | error fault => rfl
  | ok ending => exact proceed_settled runs (arrival_settled harrival)

theorem proceed_broken (runs : Nat) :
    (proceed setting runs earlier (failed setting.context.language .unexpected slots events steps)
        told messages).run =
      .done (Way.report setting.context earlier told messages slots events steps
        ⟨[], .ok (.broken setting.context.language .unexpected)⟩) := by
  have hsettled : (Ending.broken setting.context.language .unexpected).Settled
      setting.context.scenario := trivial
  exact proceed_settled runs hsettled

theorem walk_proceed (hs : setting.context.scenario.defects = [])
    (hids : "" ∉ setting.context.scenario.nodeIds) (runs remaining : Nat) {next : Option Node}
    (hn : ∀ node ∈ next, node ∈ setting.context.scenario.nodes) :
    (walk setting.context remaining steps next slots events >>= fun last =>
        proceed setting runs earlier last told messages).run =
      Way.report setting.context earlier told messages slots events steps <$>
        travel setting runs remaining next slots := by
  induction runs using Nat.strong_induction_on
    generalizing remaining steps next slots events earlier told messages with
  | _ runs ihRuns =>
  induction remaining generalizing steps next slots events with
  | zero =>
      rw [travel.eq_def]
      cases next with
      | none => exact proceed_end runs 0
      | some node => exact proceed_broken runs
  | succ remaining ihRemaining =>
      rw [travel.eq_def]
      cases next with
      | none => exact proceed_end runs (remaining + 1)
      | some node =>
          simp only [walk_step, bind_assoc, ExceptT.run_bind_lift, map_bind]
          refine Program.Always.bind_congr (execute_sound _ (hn node rfl) slots) ?_
          intro outcome hstep
          have hturning := turning_sound hs hids setting.context.language hstep
          generalize hlater : Footstep.mk node slots outcome = step at hturning
          obtain rfl : step.node = node := by rw [← hlater]
          cases hturn : step.turning setting.context.language with
          | ends ending =>
              have hpassed := Footstep.passed?_of_ends hturn
              rw [hturn] at hturning
              simp only [pure_bind, map_pure, report_on _ hpassed]
              exact proceed_settled runs hturning
          | leads next =>
              have hpassed := Footstep.passed?_of_leads hturn
              rw [hturn] at hturning
              simp only [map_bind, map_pure, report_on _ hpassed]
              rw [ihRemaining fun node h => (hturning node h).1, map_eq_pure_bind]
          | shows shown =>
              have hpassed := Footstep.passed?_of_shows hturn
              rw [hturn] at hturning
              obtain ⟨hid, -, hneeds⟩ := hturning
              cases runs with
              | zero =>
                  simp only [pure_bind, map_pure, report_past _ hpassed]
                  exact proceed_exhausted hneeds
              | succ runs =>
                  have hne : step.node.id ≠ "" := fun hempty =>
                    hids (List.mem_map.2 ⟨_, hn _ rfl, hempty⟩)
                  simp only [pure_bind]
                  rw [proceed_shown runs hneeds, perform_shown hs (hn _ rfl) hne hid]
                  cases hnext : setting.context.scenario.next (some step.node.id) none step.left with
                  | error fault =>
                      simp only [pure_bind, map_pure, report_past _ hpassed]
                      exact proceed_broken runs
                  | ok next =>
                      have hmem (node : Node) (h : node ∈ next) :=
                        Scenario.next_mem (hnext.trans (congrArg _ h))
                      simp only [map_bind, map_pure, report_past _ hpassed]
                      rw [ihRuns runs (Nat.lt_succ_self _) _ hmem, map_eq_pure_bind]

theorem stumble_report (maxRuns : Nat) (state : State) (input : Input) {draft : Slot.Draft}
    (h : draft.misnamed = true) :
    (stumble setting state input draft.slots >>= fun first =>
        proceed setting maxRuns [] first [] messages).run =
      Way.report setting.context [] [] messages draft.slots [] 0 <$>
        embark setting maxRuns state input draft := by
  simp only [stumble, embark, depart, h, if_pos]
  cases setting.context.scenario.next state.node input.handle draft.slots with
  | error fault => cases setting.maxSteps <;> rfl
  | ok first =>
      cases setting.maxSteps with
      | zero => cases first <;> rfl
      | succ steps =>
          cases first with
          | none => rfl
          | some node =>
              simp only [bind_assoc, ExceptT.run_bind_lift, map_bind]
              rfl

theorem admitted_report (hs : setting.context.scenario.defects = [])
    (hids : "" ∉ setting.context.scenario.nodeIds) (maxRuns : Nat) (state : State)
    (input : Input) {draft : Slot.Draft} (h : draft.misnamed = false) :
    (Run.proceed setting state input draft.slots >>= fun first =>
        proceed setting maxRuns [] first [] messages).run =
      Way.report setting.context [] [] messages draft.slots [] 0 <$>
        embark setting maxRuns state input draft := by
  simp only [Run.proceed, embark, depart, h]
  cases hnext : setting.context.scenario.next state.node input.handle draft.slots with
  | error fault => exact proceed_broken maxRuns
  | ok first =>
      exact walk_proceed hs hids _ _ fun node h => Scenario.next_mem (hnext.trans (congrArg _ h))

/-- What the first run makes of its entry. -/
def Entry.run (setting : Setting) (state : State) (input : Input) : Entry → Attempt Result
  | .refused shown message => return .refused shown state.slots message
  | .lost =>
      return failed setting.context.language .unexpected (Mapping.update state.slots input.form) [] 0
  | .admitted draft =>
      if draft.misnamed then stumble setting state input draft.slots
      else Run.proceed setting state input draft.slots

theorem receive_answer (setting : Setting) (state : State) (input : Input) (current : Node) :
    receive setting state input current =
      Attempt.of (answer setting state input current) >>= Entry.run setting state input := by
  unfold receive answer
  simp only [Setting.rule]
  cases Rule.check ⟨setting.context.language, setting.today⟩ (.text (input.text.getD ""))
      (current.get "validation") with
  | error fault => rfl
  | ok verdict =>
      cases verdict with
      | rejected message =>
          simp only [refuse, Entry.refusal]
          cases current.render state.slots with
          | error fault => rfl
          | ok shown => cases message <;> rfl
      | accepted =>
          by_cases hname : (current.get "slot").truthy = true
          · simp only [hname, if_true]
            cases (Slot.Draft.ofSlots (Mapping.update state.slots input.form)).store
                (current.get "slot") (.text (input.text.getD "")) with
            | error fault => rfl
            | ok draft => rfl
          · simp only [hname]
            rfl

theorem perform_entry (setting : Setting) (state : State) (input : Input) :
    perform setting state input =
      Attempt.of (entry setting state input) >>= Entry.run setting state input := by
  unfold perform entry
  simp only
  cases state.node.filter (· ≠ "") with
  | none => rfl
  | some id =>
      simp only
      cases setting.context.scenario.node? id with
      | none => rfl
      | some current =>
          simp only
          by_cases hawaits : state.awaiting = true
          · rw [if_pos hawaits, if_pos hawaits]
            exact receive_answer setting state input current
          · rw [if_neg hawaits, if_neg hawaits]
            rfl

theorem entry_report (hs : setting.context.scenario.defects = [])
    (hids : "" ∉ setting.context.scenario.nodeIds) (maxRuns : Nat) (session : Session)
    (state : State) (input : Input) (entry : Entry) :
    (entry.run setting state input >>= fun first =>
        proceed setting maxRuns [] first [] (session.messages ++ said input)).run =
      Journey.report setting.context session input <$> entry.journey setting maxRuns state input := by
  cases entry with
  | refused shown message =>
      simp only [Entry.run, Entry.journey, pure_bind, map_pure]
      unfold proceed
      simp [Journey.report, Way.report, legs, Except.map, Ending.result, Ending.events, Ending.entries,
        Result.events]
  | lost => exact proceed_broken maxRuns
  | admitted draft =>
      simp only [Entry.run, Entry.journey, map_bind, map_pure, Journey.report]
      by_cases hmisnamed : draft.misnamed = true
      · rw [if_pos hmisnamed, stumble_report maxRuns state input hmisnamed, map_eq_pure_bind]
      · rw [if_neg hmisnamed, admitted_report hs hids maxRuns state input
          (Bool.eq_false_iff.2 hmisnamed), map_eq_pure_bind]

theorem play_report (hs : setting.context.scenario.defects = [])
    (hids : "" ∉ setting.context.scenario.nodeIds) (maxRuns : Nat) (session : Session)
    (input : Input) :
    (play setting maxRuns session input).run =
      Journey.report setting.context session input <$>
        journey setting maxRuns ⟨session.node, session.awaiting, session.slots⟩ input := by
  rw [play, perform_entry, bind_assoc, journey]
  cases entry setting ⟨session.node, session.awaiting, session.slots⟩ input with
  | error fault => rfl
  | ok entry => exact entry_report hs hids maxRuns session _ input entry

end Reports

theorem turn_is_one_walk (setting : Setting) (hs : setting.context.scenario.defects = [])
    (hids : "" ∉ setting.context.scenario.nodeIds) (maxRuns : Nat) (session : Session)
    (input : Input) :
    let walked := journey setting maxRuns ⟨session.node, session.awaiting, session.slots⟩ input
    (play setting maxRuns session input).run =
        Journey.report setting.context session input <$> walked ∧
      walked.Always (Journey.Single setting.context.scenario session.node input.handle) :=
  ⟨play_report hs hids maxRuns session input,
    journey_single hs hids maxRuns ⟨session.node, session.awaiting, session.slots⟩ input⟩

namespace Sample

/-- The reply that leads to the greeting would lead on from it to the end. -/
def greeting : Scenario where
  id := "greeting"
  name := "Greeting"
  description := ""
  nodes := [
    ⟨"menu", "branch", []⟩,
    ⟨"hello", "message", [("content", .text "Hello")]⟩,
    ⟨"note", "setSlot", [("assignments", .list [
      .object [("key", .text "greeted"), ("value", .text "yes")]])]⟩,
    ⟨"name", "slotfilling", [("slot", .text "name")]⟩,
    ⟨"end", "message", []⟩]
  edges := [
    ⟨"e1", "menu", "hello", some "go"⟩,
    ⟨"e2", "hello", "note", none⟩,
    ⟨"e3", "hello", "end", some "go"⟩,
    ⟨"e4", "note", "name", none⟩]
  start := some "menu"

def lobby : Setting := ⟨⟨greeting, "s1", "en", ""⟩, ⟨2024, 1, 1⟩, 10⟩

def go : Input := ⟨none, some "go", []⟩

theorem greeting_defects : greeting.defects = [] := by
  rw [Scenario.defects_eq_nil_iff]
  decide

def visitor : Session where
  id := "s1"
  conversation := "c"
  scenario := "greeting"
  node := some "menu"
  awaiting := false
  slots := []
  messages := []
  status := .generating
  language := "en"
  selected := []
  version := 1
  created := ⟨⟨2024, 5, 2⟩, 1, none, by decide, by decide⟩
  updated := ⟨⟨2024, 5, 2⟩, 1, none, by decide, by decide⟩

end Sample

/-- Two runs, of one node and of two. -/
theorem greeting_is_one_walk :
    let state : State := ⟨Sample.visitor.node, Sample.visitor.awaiting, Sample.visitor.slots⟩
    Sample.greeting.defects = [] ∧ "" ∉ Sample.greeting.nodeIds ∧
      ∃ walked report, journey Sample.lobby 5 state Sample.go = .done walked ∧
        walked.report Sample.lobby.context Sample.visitor Sample.go = .ok report ∧
        report.results.map Result.steps = [1, 2] ∧ report.last.node = some "name" ∧
        Journey.Single Sample.greeting (some "menu") (some "go") walked := by
  intro state
  have hids : "" ∉ Sample.greeting.nodeIds := by decide
  obtain ⟨hreport, hsingle⟩ := turn_is_one_walk Sample.lobby Sample.greeting_defects hids 5
    Sample.visitor Sample.go
  obtain ⟨report, hplay, hsteps, hnode⟩ : ∃ report,
      (play Sample.lobby 5 Sample.visitor Sample.go).run = .done (.ok report) ∧
        report.results.map Result.steps = [1, 2] ∧ report.last.node = some "name" :=
    ⟨_, rfl, by decide, by decide⟩
  rw [hplay] at hreport
  cases hwalked : journey Sample.lobby 5 state Sample.go with
  | ask call next =>
      rw [hwalked] at hreport
      cases hreport
  | done walked =>
      rw [hwalked] at hreport hsingle
      exact ⟨Sample.greeting_defects, hids, walked, report, rfl,
        (Program.done.inj hreport).symm, hsteps, hnode, hsingle⟩

end Dialogue.Turn
