import Dialogue.Scenario.Basic
import Dialogue.Condition
/-!
Which edge leads on from a node. A keyword in the output of an llm node comes first, then a
condition that holds, then the handle the user chose, then the default.
-/
namespace Dialogue.Scenario

open Dialogue.Text

/-- The declared start node, or the first node that no edge leads to. -/
def startNode? (scenario : Scenario) : Option Node :=
  (scenario.start.bind scenario.node?).or
    (scenario.nodes.find? fun node => !(scenario.edges.map Edge.target).contains node.id)

/-- An authored handle names an edge if both are the same text, or both are missing. -/
def matchesHandle (handle : Value) (edge : Edge) : Bool :=
  match handle, edge.handle with
  | .text s, some t => s = t
  | .null, none => true
  | _, _ => false

def edgeFor? (edges : List Edge) (handle : Value) : Option Edge :=
  edges.find? (matchesHandle handle)

def plainEdge? (edges : List Edge) : Option Edge := edges.find? Edge.isPlain

/-- The first item for which `test` finds something. -/
def firstSome {α β : Type} (test : α → Except Fault (Option β)) : List α → Except Fault (Option β)
  | [] => .ok none
  | a :: rest => do
      match ← test a with
      | some b => return some b
      | none => firstSome test rest

/-- The edge of a condition whose keyword occurs in `output`. -/
def keywordEdge? (edges : List Edge) (output : List Char) (condition : Value) :
    Except Fault (Option Edge) := do
  let word ← ((← condition.field "keyword").getD .null).toText
  let keyword := lower word.toList
  if keyword.isEmpty || !occursIn keyword output then return none
  else return edgeFor? edges ((← condition.field "id").getD .null)

/-- The slot that a name of any kind stands for. -/
def slotAt (slots : Slots) (name : Value) : Except Fault Value :=
  match name with
  | .text s => .ok ((Mapping.get? slots s).getD .null)
  | other => if other.hashable then .ok .null else .error (.clash (.unhashable other.kind))

/-- The edge that the output of an llm node selects. -/
def outputEdge? (node : Node) (edges : List Edge) (slots : Slots) :
    Except Fault (Option Edge) := do
  let name := node.get "outputVar"
  let conditions := node.get "conditions"
  if !name.truthy || !conditions.truthy then return none
  let output := lower (← (← slotAt slots name).toText).toList
  if output.isEmpty then return none
  firstSome (keywordEdge? edges output) (← conditions.elements)

/-- The value of the reply at a place, if there is one that says yes. -/
def replyValue? (replies : Value) (place : Nat) : Except Fault (Option Value) :=
  if !replies.truthy then .ok none
  else
    match replies with
    | .list items =>
        match items[place]? with
        | some reply => do
            let value := (← reply.field "value").getD .null
            return if value.truthy then some value else none
        | none => .ok none
    | .text s => if place < s.length then .error (.clash (.lacksFields .text)) else .ok none
    | .object fields =>
        if place < fields.length then .error (.missingField (toString place)) else .ok none
    | other => .error (.clash (.lacksLength other.kind))

/-- The handle of the condition at a place: the value of the reply beside it, its own handle, or its
id. -/
def conditionHandle (node : Node) (place : Nat) (condition : Value) : Except Fault Value := do
  match ← replyValue? (node.get "replies") place with
  | some value => return value
  | none =>
      let handle := (← condition.field "handle").getD .null
      if handle.truthy then return handle else return (← condition.field "id").getD .null

/-- The edge of a condition that holds. -/
def conditionEdge? (node : Node) (edges : List Edge) (slots : Slots) (condition : Value × Nat) :
    Except Fault (Option Edge) := do
  if ← Condition.holdsIn condition.1 (.object slots) then
    return edgeFor? edges (← conditionHandle node condition.2 condition.1)
  else return none

def branchEdge? (node : Node) (edges : List Edge) (slots : Slots) :
    Except Fault (Option Edge) := do
  let conditions := node.get "conditions"
  if !conditions.truthy then return none
  firstSome (conditionEdge? node edges slots) (← conditions.elements).zipIdx

/-- The edge for a handle if one is given, else the default edge. -/
def handleEdge? (node : Node) (edges : List Edge) (handle : Option String) : Option Edge :=
  match handle.filter (· ≠ "") with
  | some handle => edgeFor? edges (.text handle)
  | none =>
      if node.isConditionBranch then (edgeFor? edges (.text "default")).or (plainEdge? edges)
      else plainEdge? edges

def authoredEdge? (node : Node) (edges : List Edge) (slots : Slots) :
    Except Fault (Option Edge) :=
  if node.kind? = some .llm then outputEdge? node edges slots
  else if node.isConditionBranch then branchEdge? node edges slots
  else .ok none

/-- The edge that leads on from `node`. -/
def edgeFrom (scenario : Scenario) (node : Node) (handle : Option String) (slots : Slots) :
    Except Fault (Option Edge) := do
  let edges := scenario.outgoing node.id
  match ← authoredEdge? node edges slots with
  | some edge => return some edge
  | none => return handleEdge? node edges handle

/-- The node that an edge leads to. -/
def target (scenario : Scenario) (edge : Edge) : Except Fault Node :=
  match scenario.node? edge.target with
  | some node => .ok node
  | none => .error (.noSuchNode scenario.id edge.target)

/-- The node after the current one; without a current node the start node. -/
def next (scenario : Scenario) (current handle : Option String) (slots : Slots) :
    Except Fault (Option Node) :=
  match current.filter (· ≠ "") with
  | none => .ok scenario.startNode?
  | some id =>
      match scenario.node? id with
      | none => .error (.noSuchNode scenario.id id)
      | some node => do
          match ← scenario.edgeFrom node handle slots with
          | none => return none
          | some edge => return some (← scenario.target edge)

/-- The node behind exactly the given handle, whatever the conditions say. -/
def follow (scenario : Scenario) (id handle : String) : Except Fault (Option Node) :=
  match edgeFor? (scenario.outgoing id) (.text handle) with
  | none => .ok none
  | some edge => do return some (← scenario.target edge)

end Dialogue.Scenario
