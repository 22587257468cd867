import Dialogue.Proofs.Node.Ways
import Dialogue.Proofs.Turn.Rest
import Mathlib.Data.List.Chain
/-!
A turn as one walk over the graph of its scenario. Displays are nodes like others that act, but for
the entry that they add to the transcript, so the runs of a turn are stretches of a single path.
-/
namespace Dialogue.Turn

open Attempt Run

/-- A node that was executed, with the slots that it found. -/
structure Footstep where
  node : Node
  found : Slots
  outcome : Except Fault Node.Effect

inductive Ending where
  | halted (status : Status) (message : String)
  | resting (shown : Node) (awaiting : Bool)
  | refused (shown : Node) (message : String)

/-- What comes after a footstep. -/
inductive Turning where
  | ends (ending : Ending)
  | leads (next : Option Node)
  | shows (shown : Node)

structure Way where
  path : List Footstep
  ending : Except Fault Ending

structure Journey extends Way where
  outset : Slots

namespace Ending

def broken (language : String) (notice : Notice) : Ending := .halted .failed (notice.text language)

/-- At the end of the graph. -/
def arrival (context : Node.Context) (slots : Slots) : Except Fault Ending := do
  let status := if ((Mapping.get? slots "apiFailed").getD .null).truthy then .failed else .completed
  return .halted status
    (← Notice.ended.render context.language [("scenario_id", .text context.scenario.id)])

def result (slots : Slots) (events : List Event) (steps : Nat) : Ending → Result
  | .halted status message => .ended status message slots events steps
  | .resting shown awaiting => .surfaced shown awaiting slots events steps
  | .refused shown message => .refused shown slots message

/-- What the end of a turn adds to the transcript. -/
def entries : Ending → List Message
  | .halted _ message => [.answered message]
  | .resting shown _ => [.shown shown]
  | .refused _ _ => []

def events (session : String) : Ending → List Event
  | .refused _ message => [.toast session message "error"]
  | _ => []

end Ending

namespace Footstep

def left (step : Footstep) : Slots := step.outcome.toOption.elim step.found Node.Effect.slots

def events (step : Footstep) : List Event := step.outcome.toOption.elim [] Node.Effect.events

def turning (language : String) (step : Footstep) : Turning :=
  match step.outcome with
  | .error _ => .ends (.broken language .unexpected)
  | .ok effect =>
      if (effect.error.getD "") ≠ "" then .ends (.broken language (failureNotice step.node))
      else
        match effect.waits, effect.next with
        | true, some waiting =>
            match waiting.render effect.slots with
            | .error _ => .ends (.broken language .unexpected)
            | .ok shown =>
                if waiting.isDisplay then .shows shown
                else .ends (.resting shown (waiting.kind? = some .slotfilling))
        | _, next => .leads next

/-- What is shown in passing. -/
def passed? (language : String) (step : Footstep) : Option Node :=
  match step.turning language with
  | .shows shown => some shown
  | _ => none

theorem passed?_of_ends {language : String} {step : Footstep} {ending : Ending}
    (h : step.turning language = .ends ending) : step.passed? language = none := by
  rw [passed?, h]

theorem passed?_of_leads {language : String} {step : Footstep} {next : Option Node}
    (h : step.turning language = .leads next) : step.passed? language = none := by
  rw [passed?, h]

theorem passed?_of_shows {language : String} {step : Footstep} {shown : Node}
    (h : step.turning language = .shows shown) : step.passed? language = some shown := by
  rw [passed?, h]

/-- The slots are taken over as they were left, and the node is the one that the earlier leads to. -/
def Follows (scenario : Scenario) (earlier later : Footstep) : Prop :=
  later.found = earlier.left ∧ Node.WayOn scenario earlier.node earlier.left later.node

end Footstep

namespace Way

def after (step : Footstep) (way : Way) : Way := { way with path := step :: way.path }

def broken (language : String) : Way := ⟨[], .ok (.broken language .unexpected)⟩

end Way

/-- Executes one node after the other, at most `steps` of them until one is shown and `shows` of
them in passing. -/
def travel (setting : Setting) : (shows steps : Nat) → Option Node → Slots → Program Way
  | _, _, none, slots => .done ⟨[], Ending.arrival setting.context slots⟩
  | _, 0, some _, _ => .done (.broken setting.context.language)
  | shows, steps + 1, some node, slots => do
      let outcome ← (node.execute setting.context slots).run
      let step : Footstep := ⟨node, slots, outcome⟩
      match step.turning setting.context.language, shows with
      | .ends ending, _ => return .after step ⟨[], .ok ending⟩
      | .leads next, shows => return .after step (← travel setting shows steps next step.left)
      | .shows _, 0 => return .after step (.broken setting.context.language)
      | .shows _, shows + 1 =>
          match setting.context.scenario.next (some node.id) none step.left with
          | .ok next => return .after step (← travel setting shows setting.maxSteps next step.left)
          | .error _ => return .after step (.broken setting.context.language)
termination_by shows steps => (shows, steps)

/-- What the input does before any node is executed. -/
inductive Entry where
  | refused (shown : Node) (message : String)
  | lost
  | admitted (draft : Slot.Draft)

def Entry.refusal (current : Node) (slots : Slots) (message : Value) : Except Fault Entry := do
  let shown ← current.render slots
  match message with
  | .text s => return .refused shown s
  | _ => throw .invalidRecord

/-- The answer to the question of `current`, in its slot if it is accepted. -/
def answer (setting : Setting) (state : State) (input : Input) (current : Node) :
    Except Fault Entry := do
  let text := input.text.getD ""
  match ← Rule.check setting.rule (.text text) (current.get "validation") with
  | .rejected message => Entry.refusal current state.slots message
  | .accepted =>
      let draft := Slot.Draft.ofSlots (Mapping.update state.slots input.form)
      let name := current.get "slot"
      if name.truthy then return .admitted (← draft.store name (.text text))
      else return .admitted draft

def entry (setting : Setting) (state : State) (input : Input) : Except Fault Entry :=
  let filled := Entry.admitted (.ofSlots (Mapping.update state.slots input.form))
  match state.node.filter (· ≠ "") with
  | none => .ok filled
  | some id =>
      match setting.context.scenario.node? id with
      | none => .ok .lost
      | some current =>
          if state.awaiting then answer setting state input current else .ok filled

/-- Slots that cannot be used are noticed after the first node. -/
def depart (setting : Setting) (maxRuns : Nat) (draft : Slot.Draft) (first : Option Node) :
    Program Way :=
  if draft.misnamed then
    match setting.maxSteps, first with
    | _ + 1, some node => do
        let outcome ← (node.execute setting.context draft.slots).run
        return .after ⟨node, draft.slots, outcome⟩ ⟨[], .error .invalidRecord⟩
    | _, _ => return ⟨[], .error .invalidRecord⟩
  else travel setting maxRuns setting.maxSteps first draft.slots

/-- The walk from the current node, under the handle that the user chose. -/
def embark (setting : Setting) (maxRuns : Nat) (state : State) (input : Input)
    (draft : Slot.Draft) : Program Way :=
  match setting.context.scenario.next state.node input.handle draft.slots with
  | .ok first => depart setting maxRuns draft first
  | .error _ =>
      return if draft.misnamed then ⟨[], .error .invalidRecord⟩
        else .broken setting.context.language

def Entry.journey (setting : Setting) (maxRuns : Nat) (state : State) (input : Input) :
    Entry → Program Journey
  | .refused shown message => return ⟨⟨[], .ok (.refused shown message)⟩, state.slots⟩
  | .lost => return ⟨.broken setting.context.language, Mapping.update state.slots input.form⟩
  | .admitted draft => return ⟨← embark setting maxRuns state input draft, draft.slots⟩

/-- The walk from `state` under `input`. -/
def journey (setting : Setting) (maxRuns : Nat) (state : State) (input : Input) :
    Program Journey :=
  match entry setting state input with
  | .error fault => return ⟨⟨[], .error fault⟩, state.slots⟩
  | .ok entry => entry.journey setting maxRuns state input

section Turnings

variable {scenario : Scenario} {shown : Node}

/-- Of a footstep at a node of the scenario: its effect is one that the node can have. -/
def Footstep.Sound (scenario : Scenario) (step : Footstep) : Prop :=
  step.node ∈ scenario.nodes ∧ ∀ effect, step.outcome = .ok effect →
    effect.Leads scenario step.node ∧ effect.Directs scenario step.node

/-- A turn goes no further: what it shows needs the user. -/
def Ending.Settled (scenario : Scenario) : Ending → Prop
  | .halted _ _ => True
  | .resting shown awaiting => needsUser scenario shown awaiting = true
  | .refused _ _ => False

def Turning.Sound (scenario : Scenario) (step : Footstep) : Turning → Prop
  | .ends ending => ending.Settled scenario
  | .leads next =>
      ∀ node ∈ next, node ∈ scenario.nodes ∧ Node.WayOn scenario step.node step.left node
  | .shows shown =>
      shown.id = step.node.id ∧ step.node.kind? ≠ some .api ∧
        needsUser scenario shown false = false

theorem render_id {node : Node} {slots : Slots} (h : node.render slots = .ok shown) :
    shown.id = node.id := by
  obtain ⟨_, -, h⟩ := exists_of_bind_ok h
  obtain ⟨_, -, h⟩ := exists_of_bind_ok h
  cases h
  rfl

theorem needsUser_display (hs : scenario.defects = []) {node : Node} (hn : node ∈ scenario.nodes)
    (hne : node.id ≠ "") (hid : shown.id = node.id)
    (hwaits : node.waitsForUser = !node.isDisplay) :
    needsUser scenario shown (decide (node.kind? = some .slotfilling)) = !node.isDisplay := by
  rw [← hwaits, Bool.eq_iff_iff]
  exact needsUser_iff hs hn hne hid.symm

theorem turning_sound (hs : scenario.defects = []) (hids : "" ∉ scenario.nodeIds)
    (language : String) {step : Footstep} (h : step.Sound scenario) :
    (step.turning language).Sound scenario step := by
  obtain ⟨node, found, outcome⟩ := step
  obtain ⟨hn, heffect⟩ := h
  have hne : node.id ≠ "" := fun hempty => hids (List.mem_map.2 ⟨node, hn, hempty⟩)
  cases outcome with
  | error fault => trivial
  | ok effect =>
      obtain ⟨hleads, hdirects⟩ := heffect effect rfl
      unfold Footstep.turning
      simp only
      split
      · trivial
      · split
        · rename_i waiting hwaits hnext
          simp only [Node.Effect.Leads, Node.Effect.Directs, hwaits] at hleads hdirects
          obtain ⟨hid, hkind⟩ := hleads waiting hnext
          have hdisplay : waiting.isDisplay = node.isDisplay := by simp [Node.isDisplay, hkind]
          split
          · trivial
          · rename_i shown hshown
            have hsame : shown.id = node.id := (render_id hshown).trans hid
            have hneeds := needsUser_display hs hn hne hsame hdirects
            split
            · rename_i hpasses
              rw [hdisplay] at hpasses
              obtain ⟨hslot, hapi⟩ := Node.kind_of_isDisplay hpasses
              exact ⟨hsame, hapi, by simpa [hslot, hpasses] using hneeds⟩
            · rename_i hrests
              rw [hdisplay] at hrests
              simp only [Turning.Sound, Ending.Settled, hkind, hneeds, hrests, Bool.not_false]
        · rename_i hgoes
          intro next hnext
          cases hwaits : effect.waits with
          | true => exact absurd hnext (hgoes _ hwaits)
          | false =>
              simp only [Node.Effect.Leads, Node.Effect.Directs, hwaits] at hleads hdirects
              exact ⟨hleads next hnext, hdirects next hnext⟩

theorem execute_sound (context : Node.Context) {node : Node} (hn : node ∈ context.scenario.nodes)
    (slots : Slots) :
    (node.execute context slots).run.Always fun outcome =>
      Footstep.Sound context.scenario ⟨node, slots, outcome⟩ :=
  Program.Always.mono
    ((Node.execute_leads context node slots).and (Node.execute_directs context node slots))
    fun _ h => ⟨hn, h⟩

end Turnings

section Paths

variable {setting : Setting}

/-- A single path from `next`, which finds `slots`. -/
def Way.Single (scenario : Scenario) (next : Option Node) (slots : Slots) (way : Way) : Prop :=
  (∀ first ∈ way.path.head?, next = some first.node ∧ first.found = slots) ∧
    way.path.IsChain (Footstep.Follows scenario)

theorem single_nil (scenario : Scenario) (next : Option Node) (slots : Slots)
    (ending : Except Fault Ending) : Way.Single scenario next slots ⟨[], ending⟩ :=
  ⟨nofun, .nil⟩

theorem Way.Single.after {scenario : Scenario} {step : Footstep} {next : Option Node} {way : Way}
    (h : way.Single scenario next step.left)
    (hnext : ∀ node ∈ next, Node.WayOn scenario step.node step.left node) :
    (way.after step).Single scenario (some step.node) step.found := by
  obtain ⟨hfirst, hchain⟩ := h
  refine ⟨?_, List.isChain_cons.2 ⟨fun first hhead => ?_, hchain⟩⟩
  · rintro _ ⟨⟩
    exact ⟨rfl, rfl⟩
  · obtain ⟨hleads, hfound⟩ := hfirst first hhead
    exact ⟨hfound, hnext _ hleads⟩

theorem Way.Single.stop {scenario : Scenario} (step : Footstep) (ending : Except Fault Ending) :
    (Way.after step ⟨[], ending⟩).Single scenario (some step.node) step.found :=
  (single_nil scenario none _ ending).after nofun

theorem travel_single (hs : setting.context.scenario.defects = [])
    (hids : "" ∉ setting.context.scenario.nodeIds) (shows steps : Nat) {next : Option Node}
    (hn : ∀ node ∈ next, node ∈ setting.context.scenario.nodes) (slots : Slots) :
    (travel setting shows steps next slots).Always
      (Way.Single setting.context.scenario next slots) := by
  -- The budget of steps is renewed where a node is shown, so the two counts fall lexicographically.
  induction shows using Nat.strong_induction_on generalizing steps next slots with
  | _ shows ihShows =>
  induction steps generalizing next slots with
  | zero =>
      rw [travel.eq_def]
      cases next <;> exact single_nil _ _ _ _
  | succ steps ihSteps =>
      rw [travel.eq_def]
      cases next with
      | none => exact single_nil _ _ _ _
      | some node =>
          refine Program.always_bind.2 ((execute_sound _ (hn node rfl) slots).mono ?_)
          intro outcome hstep
          have hturning := turning_sound hs hids setting.context.language hstep
          generalize hlater : Footstep.mk node slots outcome = step at hturning
          obtain rfl : step.node = node := by rw [← hlater]
          obtain rfl : step.found = slots := by rw [← hlater]
          simp only
          cases hturn : step.turning setting.context.language with
          | ends ending => exact .stop step _
          | leads next =>
              rw [hturn] at hturning
              refine Program.always_bind.2 ((ihSteps (fun node h => (hturning node h).1) _).mono ?_)
              exact fun _ hrest => hrest.after fun node h => (hturning node h).2
          | shows shown =>
              rw [hturn] at hturning
              obtain ⟨-, hkind, -⟩ := hturning
              cases shows with
              | zero => exact .stop step _
              | succ shows =>
                  cases hnext : setting.context.scenario.next (some step.node.id) none step.left with
                  | error fault =>
                      simp only
                      exact .stop step _
                  | ok next =>
                      have hway (node : Node) (h : node ∈ next) := hnext.trans (congrArg _ h)
                      have hrest := ihShows shows (Nat.lt_succ_self _) setting.maxSteps
                        (fun node h => Scenario.next_mem (hway node h)) step.left
                      simp only
                      refine Program.always_bind.2 (hrest.mono ?_)
                      exact fun _ hrest => hrest.after fun node h => .plain hkind (hway node h)

theorem depart_single (hs : setting.context.scenario.defects = [])
    (hids : "" ∉ setting.context.scenario.nodeIds) (maxRuns : Nat) (draft : Slot.Draft)
    {first : Option Node} (hn : ∀ node ∈ first, node ∈ setting.context.scenario.nodes) :
    (depart setting maxRuns draft first).Always
      (Way.Single setting.context.scenario first draft.slots) := by
  unfold depart
  split
  · split
    · exact Program.always_bind.2 (Program.always_of_forall (fun _ => .stop _ _) _)
    · exact single_nil _ _ _ _
  · exact travel_single hs hids _ _ hn _

/-- One path from the node that the resolver chooses for the user's handle. -/
structure Journey.Single (scenario : Scenario) (current handle : Option String)
    (journey : Journey) : Prop where
  start : ∀ first ∈ journey.path.head?,
    scenario.next current handle journey.outset = .ok (some first.node) ∧
      first.found = journey.outset
  chain : journey.path.IsChain (Footstep.Follows scenario)

theorem Way.Single.journey {scenario : Scenario} {current handle : Option String}
    {first : Option Node} {outset : Slots} {way : Way} (h : way.Single scenario first outset)
    (hnext : scenario.next current handle outset = .ok first) :
    Journey.Single scenario current handle ⟨way, outset⟩ where
  start step hstep := by
    obtain ⟨hfirst, hfound⟩ := h.1 step hstep
    exact ⟨hnext.trans (congrArg _ hfirst), hfound⟩
  chain := h.2

theorem unmoved_single (scenario : Scenario) (current handle : Option String) (outset : Slots)
    (ending : Except Fault Ending) :
    Journey.Single scenario current handle ⟨⟨[], ending⟩, outset⟩ where
  start := nofun
  chain := .nil

theorem journey_single (hs : setting.context.scenario.defects = [])
    (hids : "" ∉ setting.context.scenario.nodeIds) (maxRuns : Nat) (state : State)
    (input : Input) :
    (journey setting maxRuns state input).Always
      (Journey.Single setting.context.scenario state.node input.handle) := by
  unfold journey
  cases entry setting state input with
  | error fault => exact unmoved_single _ _ _ _ _
  | ok entry =>
      cases entry with
      | refused shown message => exact unmoved_single _ _ _ _ _
      | lost => exact unmoved_single _ _ _ _ _
      | admitted draft =>
          simp only [Entry.journey, embark]
          cases hnext : setting.context.scenario.next state.node input.handle draft.slots with
          | error fault =>
              simp only [pure_bind]
              split <;> exact unmoved_single _ _ _ _ _
          | ok first =>
              have hway := depart_single hs hids maxRuns draft
                fun node h => Scenario.next_mem (hnext.trans (congrArg _ h))
              exact Program.always_bind.2 (hway.mono fun _ h => h.journey hnext)

end Paths

end Dialogue.Turn
