import Dialogue.Value.Basic
/-!
Scenarios: nodes joined by edges. An edge may carry a handle, which tells under which answer or
outcome it is taken.
-/
namespace Dialogue

inductive NodeKind where
  | message
  | slotfilling
  | branch
  | form
  | api
  | llm
  | link
  | iframe
  | toast
  | setSlot
  | delay
  deriving DecidableEq, Repr

namespace NodeKind

def name : NodeKind → String
  | .message => "message"
  | .slotfilling => "slotfilling"
  | .branch => "branch"
  | .form => "form"
  | .api => "api"
  | .llm => "llm"
  | .link => "link"
  | .iframe => "iframe"
  | .toast => "toast"
  | .setSlot => "setSlot"
  | .delay => "delay"

def all : List NodeKind := [
  .message, .slotfilling, .branch, .form, .api, .llm, .link, .iframe, .toast, .setSlot, .delay]

def ofName? (s : String) : Option NodeKind := all.find? (·.name = s)

theorem ofName?_name (kind : NodeKind) : ofName? kind.name = some kind := by
  cases kind <;> decide

end NodeKind

/-- One step of a scenario with its authored data. A type of no known kind is kept as it is. -/
structure Node where
  id : String
  type : String
  data : Mapping Value
  deriving Inhabited

namespace Node

def kind? (node : Node) : Option NodeKind := NodeKind.ofName? node.type

/-- A field of the authored data, null if it is missing. -/
def get (node : Node) (field : String) : Value := (Mapping.get? node.data field).getD .null

/-- A branch that is decided by conditions and not by the user. -/
def isConditionBranch (node : Node) : Bool :=
  node.kind? = some .branch && (node.get "evaluationType").isText "CONDITION"

/-- Nodes that need an action of the user before the scenario goes on. -/
def waitsForUser (node : Node) : Bool :=
  match node.kind? with
  | some .slotfilling | some .form => true
  | some .branch => !node.isConditionBranch
  | _ => false

end Node

structure Edge where
  id : String
  source : String
  target : String
  handle : Option String
  deriving DecidableEq, Repr

/-- An edge without a handle, or with an empty one. -/
def Edge.isPlain (edge : Edge) : Bool := edge.handle.getD "" = ""

structure Scenario where
  id : String
  name : String
  description : String
  nodes : List Node
  edges : List Edge
  start : Option String

namespace Scenario

/-- The first node of an id; the empty id names none. -/
def node? (scenario : Scenario) (id : String) : Option Node :=
  if id = "" then none else scenario.nodes.find? (·.id = id)

def outgoing (scenario : Scenario) (id : String) : List Edge :=
  scenario.edges.filter (·.source = id)

theorem id_of_node? {scenario : Scenario} {id : String} {node : Node}
    (h : scenario.node? id = some node) : node.id = id ∧ node ∈ scenario.nodes := by
  unfold node? at h
  split at h
  · simp at h
  · exact ⟨by simpa using List.find?_some h, List.mem_of_find?_eq_some h⟩

theorem mem_outgoing {scenario : Scenario} {id : String} {edge : Edge} :
    edge ∈ scenario.outgoing id ↔ edge ∈ scenario.edges ∧ edge.source = id := by
  simp [outgoing]

end Scenario

end Dialogue
