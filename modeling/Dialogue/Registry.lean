import Dialogue.Scenario.Reading
import Dialogue.Scenario.Render
import Dialogue.Json.Reader
import Dialogue.Yaml.Reader
/-!
The scenarios that can be launched, by id, and the shortcuts to them.
-/
namespace Dialogue

open Dialogue.Text

structure Registry where
  scenarios : Mapping Scenario
  categories : List Value

namespace Registry

def empty : Registry := ⟨[], []⟩

/-- Adds a well-formed scenario; it takes the place of one with the same id. -/
def register (registry : Registry) (scenario : Scenario) : Except Fault Registry :=
  match scenario.defects with
  | [] => .ok { registry with scenarios := Mapping.set registry.scenarios scenario.id scenario }
  | defects => .error (.invalidScenario scenario.id (defects.map Scenario.Defect.message))

def get? (registry : Registry) (id : String) : Option Scenario :=
  Mapping.get? registry.scenarios id

def require (registry : Registry) (id : String) : Except Fault Scenario :=
  match registry.get? id with
  | some scenario => .ok scenario
  | none => .error (.scenarioNotFound id)

def list (registry : Registry) : List Scenario := registry.scenarios.map Prod.snd

/-- A change that stops at the first fault and keeps what was done before. -/
def stepwise {α : Type} (step : Registry → α → Except Fault Registry) (registry : Registry) :
    List α → Registry × Except Fault Unit
  | [] => (registry, .ok ())
  | a :: rest =>
      match step registry a with
      | .ok next => stepwise step next rest
      | .error fault => (registry, .error fault)

def addRaw (registry : Registry) (raw : Value) : Except Fault Registry := do
  registry.register (← Scenario.read raw "")

/-- Registers authored scenarios one after the other. -/
def addAll (registry : Registry) (raw : Value) : Registry × Except Fault Unit :=
  match raw.elements with
  | .ok items => registry.stepwise addRaw items
  | .error fault => (registry, .error fault)

/-- The name of a file and its ending with the dot; a dot at either end of a name is none. -/
def cutEnding (file : String) : String × String :=
  match cutLast? '.' file.toList with
  | some (stem, ending) =>
      if stem.isEmpty || ending.isEmpty then (file, "")
      else (String.ofList stem, String.ofList ('.' :: ending))
  | none => (file, "")

def ending (file : String) : String := String.ofList (lower (cutEnding file).2.toList)

def stem (file : String) : String := (cutEnding file).1

def isScenarioFile (file : String) : Bool := [".json", ".yaml", ".yml"].contains (ending file)

def readFile (file content : String) : Except Fault Authored.Fields := do
  let raw ←
    if ending file = ".json" then do pure (Authored.ofValue (← Json.read content))
    else Yaml.read content
  match raw with
  | .object fields => return fields
  | _ => throw (.invalidScenario (stem file) [file ++ " does not contain a mapping"])

def addFile (registry : Registry) (entry : String × String) : Except Fault Registry := do
  registry.register (← Scenario.readAuthored (← readFile entry.1 entry.2) (stem entry.1))

/-- Registers the scenario files of a directory in the order of their names, and counts them. -/
def load (registry : Registry) (files : List (String × String)) :
    Registry × Except Fault Nat :=
  let chosen := (files.mergeSort fun a b => precedes a.1 b.1).filter fun f => isScenarioFile f.1
  let (next, outcome) := registry.stepwise addFile chosen
  (next, outcome.map fun _ => chosen.length)

def setCategories (registry : Registry) (categories : Value) : Except Fault Registry := do
  let items ← if categories.truthy then categories.elements else pure []
  return { registry with categories := items }

/-- The action that an utterance stands for. -/
def action? (registry : Registry) (text : String) : Except Fault (Option Action) :=
  Shortcut.find registry.categories text

end Registry

end Dialogue
