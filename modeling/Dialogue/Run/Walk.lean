import Dialogue.Run.Basic
import Dialogue.Node.Execute
import Dialogue.Scenario.Render
import Dialogue.Validation
/-!
Carrying out a run. The answer to an awaited question is checked and stored, then nodes are executed
one after the other until one waits or the scenario ends. A fault in a node fails the scenario and
not the run.
-/
namespace Dialogue.Run

def failed (language : String) (notice : Notice) (slots : Slots) (events : List Event)
    (steps : Nat) : Result :=
  .ended .failed (notice.text language) slots events steps

/-- The notice for a node that failed. -/
def failureNotice (node : Node) : Notice :=
  if node.kind? = some .llm then .completionFailed else .unexpected

/-- A scenario whose last api call failed ends as failed. -/
def finish (context : Node.Context) (slots : Slots) (events : List Event) (steps : Nat) :
    Except Fault Result := do
  let status := if ((Mapping.get? slots "apiFailed").getD .null).truthy then .failed else .completed
  let message ← Notice.ended.render context.language [("scenario_id", .text context.scenario.id)]
  return .ended status message slots events steps

def surface (language : String) (node : Node) (slots : Slots) (events : List Event)
    (steps : Nat) : Result :=
  match node.render slots with
  | .ok shown => .surfaced shown (node.kind? = some .slotfilling) slots events steps
  | .error _ => failed language .unexpected slots events steps

/-- Executes nodes, at most `remaining` of them, from `node` on; `steps` have been executed
before. -/
def walk (context : Node.Context) :
    (remaining steps : Nat) → (node : Option Node) → Slots → List Event → Attempt Result
  | _, steps, none, slots, events => Attempt.of (finish context slots events steps)
  | 0, steps, some _, slots, events =>
      return failed context.language .unexpected slots events steps
  | remaining + 1, steps, some node, slots, events => do
      match ← ExceptT.lift (node.execute context slots).run with
      | .error _ => return failed context.language .unexpected slots events (steps + 1)
      | .ok effect =>
          let all := events ++ effect.events
          if (effect.error.getD "") ≠ "" then
            return failed context.language (failureNotice node) effect.slots all (steps + 1)
          else
            match effect.waits, effect.next with
            | true, some waiting =>
                return surface context.language waiting effect.slots all (steps + 1)
            | _, next => walk context remaining (steps + 1) next effect.slots all

/-- Goes on from the current node along the edge for the answer. -/
def proceed (setting : Setting) (state : State) (input : Input) (slots : Slots) :
    Attempt Result :=
  match setting.context.scenario.next state.node input.handle slots with
  | .ok node => walk setting.context setting.maxSteps 0 node slots []
  | .error _ => return failed setting.context.language .unexpected slots [] 0

/-- Slots that cannot be used fail the run once its first node has acted. -/
def stumble (setting : Setting) (state : State) (input : Input) (slots : Slots) :
    Attempt Result := do
  match setting.maxSteps, setting.context.scenario.next state.node input.handle slots with
  | _ + 1, .ok (some node) =>
      let _ ← ExceptT.lift (node.execute setting.context slots).run
      throw .invalidRecord
  | _, _ => throw .invalidRecord

def refuse (current : Node) (slots : Slots) (message : Value) : Except Fault Result := do
  let shown ← current.render slots
  match message with
  | .text s => return .refused shown slots s
  | _ => throw .invalidRecord

/-- Checks the answer to the question of `current` and stores it in the slot of the question. -/
def receive (setting : Setting) (state : State) (input : Input) (current : Node) :
    Attempt Result := do
  let text := input.text.getD ""
  let rule : Rule.Setting := ⟨setting.context.language, setting.today⟩
  match ← Attempt.of (Rule.check rule (.text text) (current.get "validation")) with
  | .rejected message => Attempt.of (refuse current state.slots message)
  | .accepted =>
      let draft := Slot.Draft.ofSlots (Mapping.update state.slots input.form)
      let name := current.get "slot"
      let stored ←
        if name.truthy then Attempt.of (draft.store name (.text text)) else pure draft
      if stored.misnamed then stumble setting state input stored.slots
      else proceed setting state input stored.slots

/-- A run from `state` under `input`. A state at a node that is not there fails the scenario. -/
def perform (setting : Setting) (state : State) (input : Input) : Attempt Result :=
  let slots := Mapping.update state.slots input.form
  match state.node.filter (· ≠ "") with
  | none => proceed setting state input slots
  | some id =>
      match setting.context.scenario.node? id with
      | none => return failed setting.context.language .unexpected slots [] 0
      | some current =>
          if state.awaiting then receive setting state input current
          else proceed setting state input slots

end Dialogue.Run
