import Dialogue.Yaml.Reader
import Dialogue.Text.Word
import Dialogue.Text.Scan
/-!
Settings read from a document, with variables written as `${NAME}` filled in.
-/
namespace Dialogue

open Dialogue.Text

/-- Temperature and token limit are handed on to the provider as they are given. -/
structure CompletionSettings where
  provider : Value
  model : Value
  temperature : Value
  maxTokens : Value
  apiKey : Value
  flowiseUrl : Value
  timeout : Float

structure StoreSettings where
  backend : Value
  directory : Value

structure ScenarioSettings where
  directory : Value
  maxSteps : Int
  turnTimeout : Float
  apiBaseUrl : Value
  httpTimeout : Float
  defaultLanguage : Value
  categories : Value

structure LogSettings where
  level : Value
  format : Value

structure Settings where
  appName : Value
  debug : Value
  completion : CompletionSettings
  store : StoreSettings
  scenario : ScenarioSettings
  log : LogSettings

namespace Settings

def defaultCompletion : CompletionSettings :=
  ⟨.text "anthropic", .text "claude-sonnet-4-20250514", .float 0.7, .int 1024, .text "", .text "",
    30.0⟩

def defaultStore : StoreSettings := ⟨.text "memory", .text "./data"⟩

def defaultScenario : ScenarioSettings :=
  ⟨.text "./scenarios_data", 100, 60.0, .text "http://localhost:3000", 30.0, .text "ko", .list []⟩

def defaultLog : LogSettings := ⟨.text "INFO", .text "console"⟩

def defaults : Settings :=
  ⟨.text "ScenarioEngine", .bool false, defaultCompletion, defaultStore, defaultScenario,
    defaultLog⟩

/-- A variable in braces after a dollar sign. -/
def variablePattern : Pattern String := fun _ cs =>
  match cs with
  | '$' :: '\x7b' :: rest =>
      let name := rest.takeWhile isWord
      if name.isEmpty || (rest.drop name.length).head? ≠ some '\x7d' then none
      else some (String.ofList name, name.length + 3)
  | _ => none

/-- Fills in the variables that are set; the others stay as they are written. -/
def fillVariables (env : Mapping String) (s : String) : String :=
  String.ofList ((parts variablePattern s.toList).flatMap fun
    | .inl c => [c]
    | .inr name => ((Mapping.get? env name).getD ("$\x7b" ++ name ++ "\x7d")).toList)

mutual

def fillIn (env : Mapping String) : Authored → Authored
  | .plain (.text s) => .plain (.text (fillVariables env s))
  | .list items => .list (fillInItems env items)
  | .object fields => .object (fillInFields env fields)
  | v => v

def fillInItems (env : Mapping String) : List Authored → List Authored
  | [] => []
  | v :: vs => fillIn env v :: fillInItems env vs

def fillInFields (env : Mapping String) :
    List ((String × Bool) × Authored) → List ((String × Bool) × Authored)
  | [] => []
  | (k, v) :: rest => (k, fillIn env v) :: fillInFields env rest

end

/-- A float from a number, a boolean or a text. -/
def toFloat (v : Value) : Except Fault Float :=
  match v with
  | .float x => .ok x
  | .bool b => .ok (if b then 1.0 else 0.0)
  | .int n => (Decimal.ofInt? n).elim (.error .overflow) .ok
  | .text s => (Decimal.parse? s.toList).elim (.error (.malformed (.numeral s))) .ok
  | other => .error (.clash (.notANumber other.kind))

/-- An integer from a number, a boolean or a text; a fraction is cut off. -/
def toInt (v : Value) : Except Fault Int :=
  match v with
  | .int n => .ok n
  | .bool b => .ok (if b then 1 else 0)
  | .float x =>
      if x.isNaN then .error (.malformed .notANumber)
      else
        let whole := if x < 0.0 then x.ceil else x.floor
        (Decimal.integral? whole).elim (.error .overflow) .ok
  | .text s => Numeral.parse s.toList
  | other => .error (.clash (.notANumber other.kind))

/-- What is written under a name. -/
def written? (part : Authored) (name : String) : Except Fault (Option Authored) :=
  match part with
  | .object fields => .ok (Authored.get? fields name)
  | other => .error (.clash (.lacksFields other.toValue.kind))

def fieldOr (part : Authored) (name : String) (default : Value) : Except Fault Value := do
  return (← written? part name).elim default Authored.toValue

/-- A number, for which no point in time is taken. -/
def numberOr {α : Type} (part : Authored) (name : String) (read : Value → Except Fault α)
    (default : α) : Except Fault α := do
  match ← written? part name with
  | some (.time _) => throw (.clash (.notANumber .text))
  | some v => read v.toValue
  | none => return default

def readCompletion (v : Authored) : Except Fault CompletionSettings := do
  let d := defaultCompletion
  return {
    provider := ← fieldOr v "provider" d.provider
    model := ← fieldOr v "model" d.model
    temperature := .float (← numberOr v "temperature" toFloat 0.7)
    maxTokens := .int (← numberOr v "max_tokens" toInt 1024)
    apiKey := ← fieldOr v "api_key" d.apiKey
    flowiseUrl := ← fieldOr v "flowise_url" d.flowiseUrl
    timeout := ← numberOr v "timeout_seconds" toFloat d.timeout }

def readStore (v : Authored) : Except Fault StoreSettings := do
  return {
    backend := ← fieldOr v "store_backend" defaultStore.backend
    directory := ← fieldOr v "store_file_dir" defaultStore.directory }

def readScenario (v : Authored) : Except Fault ScenarioSettings := do
  let d := defaultScenario
  return {
    directory := ← fieldOr v "scenario_dir" d.directory
    maxSteps := ← numberOr v "max_steps" toInt d.maxSteps
    turnTimeout := ← numberOr v "turn_timeout_seconds" toFloat d.turnTimeout
    apiBaseUrl := ← fieldOr v "api_base_url" d.apiBaseUrl
    httpTimeout := ← numberOr v "http_timeout_seconds" toFloat d.httpTimeout
    defaultLanguage := ← fieldOr v "default_language" d.defaultLanguage
    categories := (← fieldOr v "categories" .null).orElse (.list []) }

def readLog (v : Authored) : Except Fault LogSettings := do
  return {
    level := ← fieldOr v "level" defaultLog.level
    format := ← fieldOr v "format" defaultLog.format }

/-- The fields of a part; one that says no has none. -/
def orEmpty (v : Authored) : Authored := if v.toValue.truthy then v else .object []

/-- A part of the document, read if it is there. -/
def readPart {α : Type} (raw : Authored) (name : String) (read : Authored → Except Fault α)
    (default : α) : Except Fault α := do
  match ← written? raw name with
  | some v => read (orEmpty v)
  | none => return default

/-- The settings that a document writes; what it does not mention keeps its default. -/
def read (env : Mapping String) (document : String) : Except Fault Settings := do
  let raw := fillIn env (orEmpty (← Yaml.read document))
  return {
    appName := ← fieldOr raw "app_name" defaults.appName
    debug := ← fieldOr raw "debug" defaults.debug
    completion := ← readPart raw "llm" readCompletion defaultCompletion
    store := ← readPart raw "database" readStore defaultStore
    scenario := ← readPart raw "scenario" readScenario defaultScenario
    log := ← readPart raw "logging" readLog defaultLog }

/-- Without a document all settings have their defaults. -/
def load (env : Mapping String) (document : Option String) : Except Fault Settings :=
  match document with
  | some text => read env text
  | none => .ok defaults

end Settings

end Dialogue
