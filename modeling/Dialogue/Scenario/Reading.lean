import Dialogue.Authored
import Dialogue.Scenario.Basic
import Dialogue.Value.Convert
/-!
Reading scenarios from authored values. All complaints about a scenario are collected, in the order
of its fields.
-/
namespace Dialogue.Scenario

inductive Complaint where
  | missing
  | noText
  | noList
  | noObject
  | noNode
  | noEdge
  deriving DecidableEq, Repr

def Complaint.message : Complaint → String
  | .missing => "Field required"
  | .noText => "Input should be a valid string"
  | .noList => "Input should be a valid list"
  | .noObject => "Input should be a valid dictionary"
  | .noNode => "Input should be a valid dictionary or instance of Node"
  | .noEdge => "Input should be a valid dictionary or instance of Edge"

abbrev Checked (α : Type) := Except (List Complaint) α

/-- Two values; the complaints about both are collected. -/
def together {α β : Type} (a : Checked α) (b : Checked β) : Checked (α × β) :=
  match a, b with
  | .ok x, .ok y => .ok (x, y)
  | .error p, .error q => .error (p ++ q)
  | .error p, .ok _ => .error p
  | .ok _, .error q => .error q

def readText (v : Authored) : Checked String :=
  match v with
  | .plain (.text s) => .ok s
  | _ => .error [.noText]

def readRequired (fields : Authored.Fields) (name : String) : Checked String :=
  match Authored.get? fields name with
  | some v => readText v
  | none => .error [.missing]

def readDefault (fields : Authored.Fields) (name default : String) : Checked String :=
  match Authored.get? fields name with
  | some v => readText v
  | none => .ok default

def readOptional (v : Option Authored) : Checked (Option String) :=
  match v with
  | none | some (.plain .null) => .ok none
  | some v => (readText v).map some

/-- A field under either of two names; the first one wins. -/
def either? (fields : Authored.Fields) (name other : String) : Option Authored :=
  (Authored.get? fields name).or (Authored.get? fields other)

def readItems {α : Type} (read : Authored → Checked α) : List Authored → Checked (List α)
  | [] => .ok []
  | v :: vs => (together (read v) (readItems read vs)).map fun (x, xs) => x :: xs

def readList {α : Type} (read : Authored → Checked α) (v : Option Authored) : Checked (List α) :=
  match v with
  | none => .ok []
  | some (.list items) => readItems read items
  | some _ => .error [.noList]

/-- The keys of data are texts. -/
def readData (v : Option Authored) : Checked (Mapping Value) :=
  match v with
  | none => .ok []
  | some (.object fields) =>
      match fields.filter fun field => !field.1.2 with
      | [] => .ok (Authored.toFields fields)
      | others => .error (others.map fun _ => .noText)
  | some _ => .error [.noObject]

def readNode (v : Authored) : Checked Node :=
  match v with
  | .object fields => do
      let ((id, type), data) ← together
        (together (readRequired fields "id") (readRequired fields "type"))
        (readData (Authored.get? fields "data"))
      return ⟨id, type, data⟩
  | _ => .error [.noNode]

/-- The id of edges that are written without one. -/
def anonymousEdge : String := "autoautoauto"

def readEdge (v : Authored) : Checked Edge :=
  match v with
  | .object fields => do
      let (((id, source), target), handle) ← together
        (together
          (together (readDefault fields "id" anonymousEdge) (readRequired fields "source"))
          (readRequired fields "target"))
        (readOptional (either? fields "sourceHandle" "source_handle"))
      return ⟨id, source, target, handle⟩
  | _ => .error [.noEdge]

def readTexts (fields : Authored.Fields) : Checked ((String × String) × String) :=
  together (together (readRequired fields "id") (readDefault fields "name" ""))
    (readDefault fields "description" "")

def readGraph (fields : Authored.Fields) : Checked ((List Node × List Edge) × Option String) :=
  together
    (together (readList readNode (Authored.get? fields "nodes"))
      (readList readEdge (Authored.get? fields "edges")))
    (readOptional (either? fields "startNodeId" "start_node_id"))

def readFields (fields : Authored.Fields) : Checked Scenario := do
  let (((id, name), description), ((nodes, edges), start)) ←
    together (readTexts fields) (readGraph fields)
  return ⟨id, name, description, nodes, edges, start⟩

/-- Sets a field unless it is there already. -/
def withDefault (fields : Authored.Fields) (name : String) (v : Authored) : Authored.Fields :=
  if (Authored.get? fields name).isSome then fields
  else Authored.set fields (Authored.textKey name) v

/-- The id under which complaints about a scenario are reported. -/
def reportedId (fields : Authored.Fields) : Except Fault String :=
  let id := ((Authored.get? fields "id").map Authored.toValue).getD .null
  if id.truthy then id.display else .ok "?"

/-- The scenario that authored fields write. Without an id it takes `defaultId`, without a name its
id. -/
def readAuthored (written : Authored.Fields) (defaultId : String) : Except Fault Scenario := do
  let named := withDefault written "id" (.plain (.text defaultId))
  let fields := withDefault named "name" ((Authored.get? named "id").getD (.plain .null))
  match readFields fields with
  | .ok scenario => return scenario
  | .error complaints =>
      throw (.invalidScenario (← reportedId fields) (complaints.map Complaint.message))

/-- The scenario that a value writes. -/
def read (raw : Value) (defaultId : String) : Except Fault Scenario := do
  readAuthored (Authored.ofFields (← raw.textFields)) defaultId

end Dialogue.Scenario

/-!
What a scenario has to satisfy before it may be run.
-/
namespace Dialogue.Scenario

open Dialogue.Text

inductive Defect where
  | noId
  | noNodes
  | duplicateNode (id : String)
  | unknownStart (id : String)
  | unknownSource (edge source : String)
  | unknownTarget (edge target : String)
  deriving DecidableEq, Repr

def Defect.message : Defect → String
  | .noId => "scenario id is required"
  | .noNodes => "scenario must have at least one node"
  | .duplicateNode id => "duplicate node id '" ++ id ++ "'"
  | .unknownStart id => "startNodeId '" ++ id ++ "' not found in nodes"
  | .unknownSource edge source =>
      "edge '" ++ edge ++ "' references unknown source '" ++ source ++ "'"
  | .unknownTarget edge target =>
      "edge '" ++ edge ++ "' references unknown target '" ++ target ++ "'"

def nodeIds (scenario : Scenario) : List String := scenario.nodes.map Node.id

/-- The ids that occur more than once, each once and in order. -/
def duplicates (ids : List String) : List String :=
  (ids.filter fun id => 1 < ids.count id).eraseDups.mergeSort precedes

def startDefects (scenario : Scenario) : List Defect :=
  match scenario.start with
  | some id => if id = "" || scenario.nodeIds.contains id then [] else [.unknownStart id]
  | none => []

def edgeDefects (scenario : Scenario) (edge : Edge) : List Defect :=
  (if scenario.nodeIds.contains edge.source then [] else [.unknownSource edge.id edge.source]) ++
    (if scenario.nodeIds.contains edge.target then [] else [.unknownTarget edge.id edge.target])

/-- All that is wrong with a scenario. -/
def defects (scenario : Scenario) : List Defect :=
  (if scenario.id = "" then [.noId] else []) ++
    (if scenario.nodes.isEmpty then [.noNodes] else []) ++
    (duplicates scenario.nodeIds).map .duplicateNode ++
    scenario.startDefects ++
    scenario.edges.flatMap scenario.edgeDefects

end Dialogue.Scenario
