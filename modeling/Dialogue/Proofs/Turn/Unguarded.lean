import Dialogue.Proofs.Node.Ways
import Dialogue.Proofs.Turn.Bounded
import Mathlib.Data.Finset.Card
import Mathlib.Logic.Relation
/-!
Scenarios whose edges lead back to no node. Every way on from a node leads to one with fewer nodes
behind it, so no more nodes can follow each other than there are.
-/
namespace Dialogue.Scenario

/-- An edge leads from one id to the other. -/
def Joined (scenario : Scenario) (a b : String) : Prop :=
  ∃ edge ∈ scenario.edges, edge.source = a ∧ edge.target = b

def Acyclic (scenario : Scenario) : Prop := ∀ id, ¬ Relation.TransGen scenario.Joined id id

open Classical in
/-- How many nodes lie behind an id. -/
noncomputable def height (scenario : Scenario) (id : String) : Nat :=
  (scenario.nodeIds.toFinset.filter (Relation.TransGen scenario.Joined id)).card

variable {scenario : Scenario} {a b : String}

theorem joined_mem (h : scenario.defects = []) (hj : scenario.Joined a b) :
    b ∈ scenario.nodeIds := by
  obtain ⟨edge, he, -, rfl⟩ := hj
  exact target_mem h he

theorem height_lt_of_joined (h : scenario.defects = []) (hacyclic : scenario.Acyclic)
    (hj : scenario.Joined a b) : scenario.height b < scenario.height a := by
  classical
  refine Finset.card_lt_card ⟨fun c hc => ?_, fun hsame => ?_⟩
  · obtain ⟨hmem, hreach⟩ := Finset.mem_filter.1 hc
    exact Finset.mem_filter.2 ⟨hmem, .head hj hreach⟩
  · have hbehind : b ∈ scenario.nodeIds.toFinset.filter (Relation.TransGen scenario.Joined a) :=
      Finset.mem_filter.2 ⟨List.mem_toFinset.2 (joined_mem h hj), .single hj⟩
    exact hacyclic b (Finset.mem_filter.1 (hsame hbehind)).2

theorem height_lt_length (hacyclic : scenario.Acyclic) (ha : a ∈ scenario.nodeIds) :
    scenario.height a < scenario.nodes.length := by
  classical
  have hproper : scenario.nodeIds.toFinset.filter (Relation.TransGen scenario.Joined a) ⊂
      scenario.nodeIds.toFinset := by
    refine ⟨Finset.filter_subset _ _, fun hall => ?_⟩
    exact hacyclic a (Finset.mem_filter.1 (hall (List.mem_toFinset.2 ha))).2
  calc scenario.height a
      < scenario.nodeIds.toFinset.card := Finset.card_lt_card hproper
    _ ≤ scenario.nodeIds.length := List.toFinset_card_le _
    _ = scenario.nodes.length := List.length_map ..

/-- Scenarios without cycles are those whose edges all lead downwards. -/
theorem acyclic_iff_falling (h : scenario.defects = []) :
    scenario.Acyclic ↔
      ∃ rank : String → Nat, ∀ edge ∈ scenario.edges, rank edge.target < rank edge.source := by
  constructor
  · intro hacyclic
    exact ⟨scenario.height, fun edge he => height_lt_of_joined h hacyclic ⟨edge, he, rfl, rfl⟩⟩
  · rintro ⟨rank, hfalls⟩ id hcycle
    have hlt {c d : String} (hway : Relation.TransGen scenario.Joined c d) : rank d < rank c := by
      induction hway with
      | single hj =>
          obtain ⟨edge, he, rfl, rfl⟩ := hj
          exact hfalls edge he
      | tail _ hj ih =>
          obtain ⟨edge, he, rfl, rfl⟩ := hj
          exact (hfalls edge he).trans ih
    exact Nat.lt_irrefl _ (hlt hcycle)

/-- What the resolver chooses after a node is behind an edge of it. -/
theorem joined_of_next (h : scenario.defects = []) (hids : "" ∉ scenario.nodeIds) {node next : Node}
    (hn : node ∈ scenario.nodes) {handle : Option String} {slots : Slots}
    (hnext : scenario.next (some node.id) handle slots = .ok (some next)) :
    scenario.Joined node.id next.id :=
  ((guided_of_named h hids hn).joined next hnext).2

theorem joined_of_follow {id handle : String} {next : Node}
    (hnext : scenario.follow id handle = .ok (some next)) : scenario.Joined id next.id := by
  unfold follow at hnext
  split at hnext
  · cases hnext
  · rename_i edge hedge
    obtain ⟨found, htarget, hnext⟩ := exists_of_bind_ok hnext
    cases hnext
    obtain ⟨hmem, hsource⟩ := mem_outgoing.1 (edgeFor?_mem hedge)
    exact ⟨edge, hmem, hsource, (target_ok htarget).2.symm⟩

theorem joined_of_wayOn (h : scenario.defects = []) (hids : "" ∉ scenario.nodeIds)
    {node next : Node} (hn : node ∈ scenario.nodes) {slots : Slots}
    (hway : Node.WayOn scenario node slots next) : scenario.Joined node.id next.id := by
  cases hway with
  | plain kind leads => exact joined_of_next h hids hn leads
  | outcome failed kind flagged leads => exact joined_of_next h hids hn leads
  | recovery kind flagged leads => exact joined_of_follow leads

end Dialogue.Scenario

namespace Dialogue.Node

theorem WayOn.mem {scenario : Scenario} {node next : Node} {slots : Slots}
    (h : WayOn scenario node slots next) : next ∈ scenario.nodes := by
  cases h with
  | plain kind leads => exact Scenario.next_mem leads
  | outcome failed kind flagged leads => exact Scenario.next_mem leads
  | recovery kind flagged leads => exact Scenario.follow_mem leads

end Dialogue.Node

/-!
Turns of scenarios without cycles. No node is executed twice, so budgets that are as large as the
scenario are never used up: whatever is done when they are, the turn is the same.
-/

namespace Dialogue

open Attempt Turn

/-- What is done with a run that has used up its steps and with a turn that has used up its runs. -/
structure Guards where
  steps : Slots → List Event → Nat → Attempt Run.Result
  runs : List Run.Result → Slots → List Event → List Message → Attempt Report

/-- The guards that all turns stand under. -/
def Guards.failing (language : String) : Guards where
  steps slots events steps := return Run.failed language .unexpected slots events steps
  runs earlier slots events messages :=
    let final := exhausted language slots
    return ⟨earlier, final, events, messages ++ [.answered final.message]⟩

namespace Run

/-- A walk that comes under the guard when its steps are used up. -/
def walkUnder (guards : Guards) (context : Node.Context) :
    (remaining steps : Nat) → (node : Option Node) → Slots → List Event → Attempt Result
  | _, steps, none, slots, events => Attempt.of (finish context slots events steps)
  | 0, steps, some _, slots, events => guards.steps slots events steps
  | remaining + 1, steps, some node, slots, events => do
      let outcome ← ExceptT.lift (node.execute context slots).run
      let step : Footstep := ⟨node, slots, outcome⟩
      let all := events ++ step.events
      match step.turning context.language with
      | .ends ending => return ending.result step.left all (steps + 1)
      | .leads next => walkUnder guards context remaining (steps + 1) next step.left all
      | .shows shown => return .surfaced shown false step.left all (steps + 1)

def performUnder (guards : Guards) (setting : Setting) (state : State) (input : Input) :
    Attempt Result := do
  match ← Attempt.of (entry setting state input) with
  | .refused shown message => return .refused shown state.slots message
  | .lost =>
      let slots := Mapping.update state.slots input.form
      return failed setting.context.language .unexpected slots [] 0
  | .admitted draft =>
      if draft.misnamed then stumble setting state input draft.slots
      else
        match setting.context.scenario.next state.node input.handle draft.slots with
        | .ok node => walkUnder guards setting.context setting.maxSteps 0 node draft.slots []
        | .error _ => return failed setting.context.language .unexpected draft.slots [] 0

end Run

namespace Turn

/-- Goes on after `last`; a turn comes under the guard when its runs are used up. -/
def proceedUnder (guards : Guards) (setting : Run.Setting) :
    (runs : Nat) → List Run.Result → (last : Run.Result) → List Event → List Message →
      Attempt Report
  | runs, earlier, last, events, messages =>
    let all := events ++ last.events
    match last with
    | .refused _ _ message =>
        let toast := Event.toast setting.context.session message "error"
        return ⟨earlier, last, all ++ [toast], messages⟩
    | .ended _ message _ _ _ => return ⟨earlier, last, all, messages ++ [.answered message]⟩
    | .surfaced shown awaiting slots _ _ =>
        let shownTo := messages ++ [.shown shown]
        if needsUser setting.context.scenario shown awaiting then
          return ⟨earlier, last, all, shownTo⟩
        else
          match runs with
          | 0 => guards.runs (earlier ++ [last]) slots all shownTo
          | runs + 1 => do
              let next ← Run.performUnder guards setting last.state .none
              proceedUnder guards setting runs (earlier ++ [last]) next all shownTo

def playUnder (guards : Guards) (setting : Run.Setting) (maxRuns : Nat) (session : Session)
    (input : Run.Input) : Attempt Report := do
  let first ← Run.performUnder guards setting ⟨session.node, session.awaiting, session.slots⟩ input
  proceedUnder guards setting maxRuns [] first [] (session.messages ++ said input)

end Turn

section Failing

open Run

theorem walkUnder_failing (context : Node.Context) (remaining steps : Nat) (next : Option Node)
    (slots : Slots) (events : List Event) :
    walkUnder (.failing context.language) context remaining steps next slots events =
      walk context remaining steps next slots events := by
  induction remaining generalizing steps next slots events with
  | zero => cases next <;> rfl
  | succ remaining ih =>
      cases next with
      | none => rfl
      | some node =>
          rw [walkUnder, walk_step]
          refine bind_congr fun outcome => ?_
          cases hturn : Footstep.turning context.language ⟨node, slots, outcome⟩ with
          | ends ending => simp only [hturn]
          | leads next => simp only [hturn, ih]
          | shows shown => simp only [hturn]

theorem performUnder_failing (setting : Setting) (state : State) (input : Input) :
    performUnder (.failing setting.context.language) setting state input =
      perform setting state input := by
  rw [perform_entry]
  refine bind_congr fun entry => ?_
  cases entry with
  | refused shown message => rfl
  | lost => rfl
  | admitted draft =>
      simp only [walkUnder_failing, Entry.run, Run.proceed] <;> rfl

theorem proceedUnder_failing (setting : Setting) (runs : Nat) (earlier : List Result)
    (last : Result) (events : List Event) (messages : List Message) :
    proceedUnder (.failing setting.context.language) setting runs earlier last events messages =
      Turn.proceed setting runs earlier last events messages := by
  induction runs generalizing earlier last events messages with
  | zero =>
      rw [proceedUnder.eq_def, Turn.proceed.eq_def]
      rfl
  | succ runs ih =>
      rw [proceedUnder.eq_def, Turn.proceed.eq_def]
      simp only [performUnder_failing, ih] <;> rfl

theorem playUnder_failing (setting : Setting) (maxRuns : Nat) (session : Session) (input : Input) :
    playUnder (.failing setting.context.language) setting maxRuns session input =
      play setting maxRuns session input := by
  simp only [playUnder, play, performUnder_failing, proceedUnder_failing]

end Failing

section Heights

open Run

variable {setting : Setting} {guards : Guards}

/-- What a turn passes is a node of the scenario with fewer than `n` nodes behind it. -/
def Run.Result.Falls (scenario : Scenario) (n : Nat) (r : Result) : Prop :=
  r.passes scenario = true →
    ∃ node ∈ scenario.nodes, r.node = some node.id ∧ scenario.height node.id < n

/-- A run may start at nodes of the scenario with fewer than `n` nodes behind them. -/
def Scenario.Below (scenario : Scenario) (n : Nat) (next : Option Node) : Prop :=
  ∀ node ∈ next, node ∈ scenario.nodes ∧ scenario.height node.id < n

theorem Scenario.Below.mono {scenario : Scenario} {n m : Nat} {next : Option Node}
    (h : scenario.Below n next) (hle : n ≤ m) : scenario.Below m next :=
  fun node hnode => ⟨(h node hnode).1, (h node hnode).2.trans_le hle⟩

theorem falls_of_settled {scenario : Scenario} {n : Nat} {r : Result}
    (h : r.passes scenario = false) : r.Falls scenario n := by
  intro hpasses
  rw [h] at hpasses
  cases hpasses

theorem falls_ending {scenario : Scenario} {ending : Ending} (h : ending.Settled scenario) (n : Nat)
    (slots : Slots) (events : List Event) (steps : Nat) :
    (ending.result slots events steps).Falls scenario n := by
  cases ending with
  | halted status message => exact falls_of_settled rfl
  | resting shown awaiting =>
      have hneeds : needsUser scenario shown awaiting = true := h
      exact falls_of_settled (by simp [Ending.result, Result.passes, hneeds])
  | refused shown message => exact falls_of_settled rfl

theorem falls_end (n remaining steps : Nat) (slots : Slots) (events : List Event) :
    Ensures (Result.Falls setting.context.scenario n)
      (walk setting.context remaining steps none slots events) := by
  rw [walk_end]
  refine ensures_of fun r hr => ?_
  cases harrival : Ending.arrival setting.context slots with
  | error fault => simp [harrival, Except.map] at hr
  | ok ending =>
      simp only [harrival, Except.map, Except.ok.injEq] at hr
      exact hr ▸ falls_ending (arrival_settled harrival) n _ _ _

variable (hs : setting.context.scenario.defects = [])
  (hids : "" ∉ setting.context.scenario.nodeIds) (hacyclic : setting.context.scenario.Acyclic)
include hs hids hacyclic

theorem below_of_leads {step : Footstep} {n : Nat}
    (hn : step.node ∈ setting.context.scenario.nodes)
    (hheight : setting.context.scenario.height step.node.id < n + 1) {next : Option Node}
    (h : (Turning.leads next).Sound setting.context.scenario step) :
    setting.context.scenario.Below n next := by
  intro node hnode
  obtain ⟨hmem, hway⟩ := h node hnode
  have hlt := Scenario.height_lt_of_joined hs hacyclic (Scenario.joined_of_wayOn hs hids hn hway)
  exact ⟨hmem, by omega⟩

theorem walk_falls {n : Nat} (remaining steps : Nat) {next : Option Node}
    (hnext : setting.context.scenario.Below n next) (slots : Slots) (events : List Event) :
    Ensures (Result.Falls setting.context.scenario n)
      (walk setting.context remaining steps next slots events) := by
  induction remaining generalizing steps next slots events with
  | zero =>
      cases next with
      | none => exact falls_end n 0 steps slots events
      | some node => exact ensures_pure (falls_of_settled rfl)
  | succ remaining ih =>
      cases next with
      | none => exact falls_end n (remaining + 1) steps slots events
      | some node =>
          obtain ⟨hn, hheight⟩ := hnext node rfl
          rw [walk_step]
          refine ensures_bind (ensures_lift ((execute_sound _ hn slots).mono ?_))
          intro outcome hstep
          have hturning := turning_sound hs hids setting.context.language hstep
          simp only
          cases hturn : Footstep.turning setting.context.language ⟨node, slots, outcome⟩ with
          | ends ending =>
              rw [hturn] at hturning
              exact ensures_pure (falls_ending hturning n _ _ _)
          | leads next =>
              rw [hturn] at hturning
              have hbelow := below_of_leads hs hids hacyclic hn (Nat.lt_succ_of_lt hheight) hturning
              exact ih _ hbelow _ _
          | shows shown =>
              rw [hturn] at hturning
              exact ensures_pure fun _ => ⟨node, hn, congrArg some hturning.1, hheight⟩

/-- What a run passes has fewer nodes behind it than the first nodes that the run may choose. -/
theorem perform_falls {n : Nat} (state : State) (input : Input)
    (hnext : ∀ slots next, setting.context.scenario.next state.node input.handle slots = .ok next →
      setting.context.scenario.Below n next) :
    Ensures (Result.Falls setting.context.scenario n) (perform setting state input) := by
  rw [perform_entry]
  refine ensures_bind (ensures_of_forall (fun entry => ?_) _)
  cases entry with
  | refused shown message => exact ensures_pure (falls_of_settled rfl)
  | lost => exact ensures_pure (falls_of_settled rfl)
  | admitted draft =>
      rw [Entry.run]
      split
      · exact ensures_stumble _ _ _ _ _
      · rw [Run.proceed]
        cases hfirst : setting.context.scenario.next state.node input.handle draft.slots with
        | error fault => exact ensures_pure (falls_of_settled rfl)
        | ok next => exact walk_falls hs hids hacyclic _ _ (hnext _ _ hfirst) _ _

/-- Steps that are at least as many as the nodes that may come are never used up. -/
theorem walkUnder_eq (remaining steps : Nat) {next : Option Node}
    (hnext : setting.context.scenario.Below remaining next) (slots : Slots)
    (events : List Event) :
    (walkUnder guards setting.context remaining steps next slots events).run =
      (walk setting.context remaining steps next slots events).run := by
  induction remaining generalizing steps next slots events with
  | zero =>
      cases next with
      | none => rfl
      | some node => exact absurd (hnext node rfl).2 (Nat.not_lt_zero _)
  | succ remaining ih =>
      cases next with
      | none => rfl
      | some node =>
          obtain ⟨hn, hheight⟩ := hnext node rfl
          rw [walkUnder, walk_step, ExceptT.run_bind_lift, ExceptT.run_bind_lift]
          refine Program.Always.bind_congr (execute_sound _ hn slots) fun outcome hstep => ?_
          have hturning := turning_sound hs hids setting.context.language hstep
          simp only
          cases hturn : Footstep.turning setting.context.language ⟨node, slots, outcome⟩ with
          | ends ending => simp only
          | leads next =>
              rw [hturn] at hturning
              exact ih _ (below_of_leads hs hids hacyclic hn hheight hturning) _ _
          | shows shown => simp only

omit hs hids in
theorem next_below {current handle : Option String} {slots : Slots} {next : Option Node}
    (hnext : setting.context.scenario.next current handle slots = .ok next) :
    setting.context.scenario.Below setting.context.scenario.nodes.length next := by
  rintro node rfl
  have hn := Scenario.next_mem hnext
  exact ⟨hn, Scenario.height_lt_length hacyclic (List.mem_map_of_mem hn)⟩

/-- What comes after a node of the scenario has fewer nodes behind it. -/
theorem next_lower {node : Node} (hn : node ∈ setting.context.scenario.nodes)
    {handle : Option String} {slots : Slots} {next : Option Node}
    (hnext : setting.context.scenario.next (some node.id) handle slots = .ok next) :
    setting.context.scenario.Below (setting.context.scenario.height node.id) next := by
  rintro later rfl
  have hjoined := Scenario.joined_of_next hs hids hn hnext
  exact ⟨Scenario.next_mem hnext, Scenario.height_lt_of_joined hs hacyclic hjoined⟩

theorem performUnder_eq (hsteps : setting.context.scenario.nodes.length ≤ setting.maxSteps)
    (state : State) (input : Input) :
    performUnder guards setting state input = perform setting state input := by
  rw [perform_entry]
  refine bind_congr fun entry => ?_
  cases entry with
  | refused shown message => rfl
  | lost => rfl
  | admitted draft =>
      simp only [Entry.run, Run.proceed]
      split
      · rfl
      · cases hfirst : setting.context.scenario.next state.node input.handle draft.slots with
        | error fault => rfl
        | ok next =>
            have hbelow := (next_below hacyclic hfirst).mono hsteps
            exact ExceptT.ext (walkUnder_eq hs hids hacyclic _ _ hbelow _ _)

/-- Runs that are at least as many as the nodes that may be passed are never used up. -/
theorem proceedUnder_eq (hsteps : setting.context.scenario.nodes.length ≤ setting.maxSteps)
    (runs : Nat) (earlier : List Result) {last : Result}
    (hlast : last.Falls setting.context.scenario runs) (events : List Event)
    (messages : List Message) :
    proceedUnder guards setting runs earlier last events messages =
      Turn.proceed setting runs earlier last events messages := by
  induction runs generalizing earlier last events messages with
  | zero =>
      rw [proceedUnder.eq_def, Turn.proceed.eq_def]
      cases last with
      | refused shown slots message => rfl
      | ended status message slots told steps => rfl
      | surfaced shown awaiting slots told steps =>
          cases hneeds : needsUser setting.context.scenario shown awaiting with
          | true => simp [hneeds]
          | false =>
              obtain ⟨node, -, -, hheight⟩ := hlast (by simp [Result.passes, hneeds])
              exact absurd hheight (Nat.not_lt_zero _)
  | succ runs ih =>
      rw [proceedUnder.eq_def, Turn.proceed.eq_def]
      cases last with
      | refused shown slots message => rfl
      | ended status message slots told steps => rfl
      | surfaced shown awaiting slots told steps =>
          cases hneeds : needsUser setting.context.scenario shown awaiting with
          | true => simp [hneeds]
          | false =>
              obtain ⟨node, hn, hnode, hheight⟩ := hlast (by simp [Result.passes, hneeds])
              have hfalls := perform_falls hs hids hacyclic (n := runs)
                (Result.surfaced shown awaiting slots told steps).state .none
                fun slots next hnext => by
                  rw [Result.state, hnode] at hnext
                  exact (next_lower hs hids hacyclic hn hnext).mono (Nat.le_of_lt_succ hheight)
              simp only [hneeds, performUnder_eq hs hids hacyclic hsteps]
              refine ExceptT.ext (Program.Always.bind_congr hfalls fun outcome houtcome => ?_)
              cases outcome with
              | error fault => rfl
              | ok next => exact congrArg ExceptT.run (ih _ (houtcome next rfl) _ _)

theorem playUnder_eq (hsteps : setting.context.scenario.nodes.length ≤ setting.maxSteps)
    {maxRuns : Nat} (hruns : setting.context.scenario.nodes.length ≤ maxRuns) (session : Session)
    (input : Input) :
    playUnder guards setting maxRuns session input = play setting maxRuns session input := by
  have hfalls := perform_falls hs hids hacyclic (n := maxRuns)
    ⟨session.node, session.awaiting, session.slots⟩ input
    fun _ _ hnext => (next_below hacyclic hnext).mono hruns
  simp only [playUnder, play, performUnder_eq hs hids hacyclic hsteps]
  refine ExceptT.ext (Program.Always.bind_congr hfalls fun outcome houtcome => ?_)
  cases outcome with
  | error fault => rfl
  | ok first =>
      exact congrArg ExceptT.run
        (proceedUnder_eq hs hids hacyclic hsteps _ _ (houtcome first rfl) _ _)

end Heights

section Paths

variable {scenario : Scenario}

/-- Along a path there are fewer and fewer nodes to come. -/
theorem path_falls (hs : scenario.defects = []) (hids : "" ∉ scenario.nodeIds)
    (hacyclic : scenario.Acyclic) {path : List Footstep}
    (hfirst : ∀ first ∈ path.head?, first.node ∈ scenario.nodes)
    (hchain : path.IsChain (Footstep.Follows scenario)) :
    path.Pairwise fun earlier later =>
      scenario.height later.node.id < scenario.height earlier.node.id := by
  induction path with
  | nil => exact .nil
  | cons step rest ih =>
      obtain ⟨hnext, hrest⟩ := List.isChain_cons.1 hchain
      have hn := hfirst step rfl
      have hlower : ∀ next ∈ rest.head?, next.node ∈ scenario.nodes ∧
          scenario.height next.node.id < scenario.height step.node.id := by
        intro next hhead
        have hjoined := Scenario.joined_of_wayOn hs hids hn (hnext next hhead).2
        exact ⟨(hnext next hhead).2.mem, Scenario.height_lt_of_joined hs hacyclic hjoined⟩
      have hfalls := ih (fun next hhead => (hlower next hhead).1) hrest
      refine List.pairwise_cons.2 ⟨fun later hlater => ?_, hfalls⟩
      cases rest with
      | nil => cases hlater
      | cons next rest =>
          have hstep := (hlower next rfl).2
          rcases List.mem_cons.1 hlater with rfl | hlater
          · exact hstep
          · exact (List.rel_of_pairwise_cons hfalls hlater).trans hstep

end Paths

namespace Turn

open Run

theorem Journey.Single.distinct {scenario : Scenario} (hs : scenario.defects = [])
    (hids : "" ∉ scenario.nodeIds)
    (hacyclic : scenario.Acyclic) {current handle : Option String} {journey : Journey}
    (h : Journey.Single scenario current handle journey) :
    (journey.path.map fun step => step.node.id).Nodup := by
  have hfirst : ∀ first ∈ journey.path.head?, first.node ∈ scenario.nodes := fun first hhead =>
    Scenario.next_mem (h.start first hhead).1
  refine List.pairwise_map.2 ((path_falls hs hids hacyclic hfirst h.chain).imp ?_)
  intro earlier later hlt hsame
  rw [hsame] at hlt
  exact Nat.lt_irrefl _ hlt

/-- Without cycles a turn executes no node twice. If moreover its budgets are as large as the
scenario, it comes under none of its guards: with any others in their place it is the same. -/
theorem acyclic_turn_is_unguarded (setting : Setting)
    (hs : setting.context.scenario.defects = []) (hids : "" ∉ setting.context.scenario.nodeIds)
    (hacyclic : setting.context.scenario.Acyclic) (maxRuns : Nat) (session : Session)
    (input : Input) :
    let walked := journey setting maxRuns ⟨session.node, session.awaiting, session.slots⟩ input
    (play setting maxRuns session input).run =
        Journey.report setting.context session input <$> walked ∧
      walked.Always (fun journey => (journey.path.map fun step => step.node.id).Nodup) ∧
      playUnder (.failing setting.context.language) setting maxRuns session input =
        play setting maxRuns session input ∧
      (setting.context.scenario.nodes.length ≤ setting.maxSteps →
        setting.context.scenario.nodes.length ≤ maxRuns →
        ∀ guards, playUnder guards setting maxRuns session input =
          play setting maxRuns session input) := by
  refine ⟨play_report hs hids maxRuns session input, ?_, playUnder_failing setting maxRuns session input,
    fun hsteps hruns guards => playUnder_eq hs hids hacyclic hsteps hruns session input⟩
  exact (journey_single hs hids maxRuns _ input).mono fun _ hsingle =>
    hsingle.distinct hs hids hacyclic

namespace Sample

def stage (id : String) : Nat :=
  (greeting.nodes.reverse.map Node.id).idxOf id

theorem greeting_acyclic : greeting.Acyclic := by
  rw [Scenario.acyclic_iff_falling greeting_defects]
  exact ⟨stage, by decide⟩

end Sample

/-- Three nodes in two runs. -/
theorem greeting_is_unguarded :
    let state : State := ⟨Sample.visitor.node, Sample.visitor.awaiting, Sample.visitor.slots⟩
    Sample.greeting.defects = [] ∧ "" ∉ Sample.greeting.nodeIds ∧ Sample.greeting.Acyclic ∧
      Sample.greeting.nodes.length ≤ Sample.lobby.maxSteps ∧ Sample.greeting.nodes.length ≤ 5 ∧
      ∃ walked report, journey Sample.lobby 5 state Sample.go = .done walked ∧
        walked.report Sample.lobby.context Sample.visitor Sample.go = .ok report ∧
        report.results.map Result.steps = [1, 2] ∧
        (walked.path.map fun step => step.node.id).Nodup ∧
        ∀ guards, (playUnder guards Sample.lobby 5 Sample.visitor Sample.go).run =
          .done (.ok report) := by
  intro state
  have hids : "" ∉ Sample.greeting.nodeIds := by decide
  obtain ⟨hreport, hdistinct, -, hunguarded⟩ := acyclic_turn_is_unguarded Sample.lobby
    Sample.greeting_defects hids Sample.greeting_acyclic 5 Sample.visitor Sample.go
  have hguards := hunguarded (by decide) (by decide)
  obtain ⟨report, hplay, hsteps⟩ : ∃ report,
      (play Sample.lobby 5 Sample.visitor Sample.go).run = .done (.ok report) ∧
        report.results.map Result.steps = [1, 2] :=
    ⟨_, rfl, by decide⟩
  refine ⟨Sample.greeting_defects, hids, Sample.greeting_acyclic, by decide, by decide, ?_⟩
  rw [hplay] at hreport
  cases hwalked : journey Sample.lobby 5 state Sample.go with
  | ask call next =>
      rw [hwalked] at hreport
      cases hreport
  | done walked =>
      rw [hwalked] at hreport hdistinct
      exact ⟨walked, report, rfl, (Program.done.inj hreport).symm, hsteps, hdistinct,
        fun guards => (congrArg ExceptT.run (hguards guards)).trans hplay⟩

end Turn

end Dialogue
