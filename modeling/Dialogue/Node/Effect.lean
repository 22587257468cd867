import Dialogue.Event.Buffer
import Dialogue.Program
import Dialogue.Scenario.Resolve
import Dialogue.Slot.Extraction
/-!
What executing a node needs and what it leaves behind.
-/
namespace Dialogue.Node

/-- Paths of the application itself are requested under `apiBase`. -/
structure Context where
  scenario : Scenario
  session : String
  language : String
  apiBase : String

/-- The run goes on at `next`, waits there for the user, or ends if there is none. An `error` is a
failure that no edge recovers from. -/
structure Effect where
  next : Option Node
  waits : Bool
  slots : Slots
  events : List Event
  error : Option String

namespace Effect

def waitAt (node : Node) (slots : Slots) : Effect := ⟨some node, true, slots, [], none⟩

def goTo (next : Option Node) (slots : Slots) (events : List Event) : Effect :=
  ⟨next, false, slots, events, none⟩

def fail (slots : Slots) (reason : String) : Effect := ⟨none, false, slots, [], some reason⟩

end Effect

/-- Goes on along the edge for `handle`. -/
def leave (context : Context) (node : Node) (handle : Option String) (slots : Slots)
    (events : List Event) : Except Fault Effect := do
  return .goTo (← context.scenario.next (some node.id) handle slots) slots events

/-- Goes on with the slots of a draft. -/
def leaveWith (context : Context) (node : Node) (handle : Option String) (draft : Slot.Draft) :
    Except Fault Effect := do
  let next ← context.scenario.next (some node.id) handle draft.slots
  return .goTo next (← draft.finish) []

end Dialogue.Node
