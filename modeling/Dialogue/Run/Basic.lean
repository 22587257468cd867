import Dialogue.Node.Effect
import Dialogue.Scenario.Render
import Dialogue.Session.Basic
import Dialogue.Moment
/-!
A run: one answer of the user, and what the scenario does with it until it needs the user again.
-/
namespace Dialogue.Run

structure Setting where
  context : Node.Context
  today : Date
  maxSteps : Nat

/-- Where a session stands in its scenario. -/
structure State where
  node : Option String
  awaiting : Bool
  slots : Slots

def State.initial : State := ⟨none, false, []⟩

/-- What the user did: typed text, a chosen handle, a filled form. -/
structure Input where
  text : Option String
  handle : Option String
  form : Slots

def Input.none : Input := ⟨.none, .none, []⟩

/-- A run comes to a node that is shown, or to the end of the scenario, or refuses the answer of
the user. -/
inductive Result where
  | surfaced (shown : Node) (awaiting : Bool) (slots : Slots) (events : List Event) (steps : Nat)
  | ended (status : Status) (message : String) (slots : Slots) (events : List Event) (steps : Nat)
  | refused (shown : Node) (slots : Slots) (message : String)

namespace Result

def name : Result → String
  | .surfaced _ _ _ _ _ => "scenario"
  | .ended _ _ _ _ _ => "scenario_end"
  | .refused _ _ _ => "scenario_validation_fail"

def shown? : Result → Option Node
  | .surfaced shown _ _ _ _ | .refused shown _ _ => some shown
  | .ended _ _ _ _ _ => none

def node (r : Result) : Option String := r.shown?.map Node.id

def awaiting : Result → Bool
  | .surfaced _ awaiting _ _ _ => awaiting
  | .ended _ _ _ _ _ => false
  | .refused _ _ _ => true

def slots : Result → Slots
  | .surfaced _ _ slots _ _ | .ended _ _ slots _ _ | .refused _ slots _ => slots

def events : Result → List Event
  | .surfaced _ _ _ events _ | .ended _ _ _ events _ => events
  | .refused _ _ _ => []

def message : Result → String
  | .ended _ message _ _ _ | .refused _ _ message => message
  | .surfaced _ _ _ _ _ => ""

def status? : Result → Option Status
  | .ended status _ _ _ _ => some status
  | _ => none

def steps : Result → Nat
  | .surfaced _ _ _ _ steps | .ended _ _ _ _ steps => steps
  | .refused _ _ _ => 0

/-- The state in which the next run starts. -/
def state (r : Result) : State := ⟨r.node, r.awaiting, r.slots⟩

def toValue (r : Result) : Value :=
  .object [("type", .text r.name), ("next_node", r.shown?.elim .null Node.toValue),
    ("current_node_id", .ofText? r.node), ("awaiting_input", .bool r.awaiting),
    ("slots", .object r.slots), ("events", .list (r.events.map Event.toValue)),
    ("message", .text r.message), ("status", .ofText? (r.status?.map Status.name)),
    ("steps", .int r.steps)]

end Result

end Dialogue.Run
