import Dialogue.Session.Basic
import Dialogue.Fault
import Dialogue.Value.Convert
/-!
Reading sessions, and changes of sessions, from fields. A field that is missing has a default; one
of the wrong kind makes the record invalid.
-/
namespace Dialogue.Session

/-- A field that must be there. -/
def required {α : Type} (fields : Mapping Value) (name : String) (read : Value → Option α) :
    Option α :=
  (Mapping.get? fields name).bind read

/-- A field that may be missing. -/
def defaulted {α : Type} (fields : Mapping Value) (name : String) (read : Value → Option α)
    (default : α) : Option α :=
  (Mapping.get? fields name).elim (some default) read

def nullable {α : Type} (read : Value → Option α) : Value → Option (Option α)
  | .null => some none
  | v => (read v).map some

def readObject : Value → Option (Mapping Value)
  | .object fields => some fields
  | _ => none

def readEach {α : Type} (read : Value → Option α) : Value → Option (List α)
  | .list items => items.mapM read
  | _ => none

def readStatus (v : Value) : Option Status := v.text?.bind Status.ofName?

def readSelected : Value → Option (Mapping String)
  | .object fields => fields.mapM fun entry => entry.2.text?.map fun s => (entry.1, s)
  | _ => none

def readMessageFields (fields : Mapping Value) : Option Message := do
  let _ ← defaulted fields "id" Value.text? ""
  let sender ← required fields "sender" fun v => v.text?.bind Sender.ofName?
  let text ← defaulted fields "text" (nullable Value.text?) none
  let node ← defaulted fields "node" (nullable readObject) none
  let _ ← defaulted fields "created_at" (fun v => (Moment.read? v).map some) none
  return ⟨sender, text, node⟩

def readMessage : Value → Option Message
  | .object fields => readMessageFields fields
  | _ => none

/-- A session read at the moment `now`. -/
def readFields (now : Moment) (fields : Mapping Value) : Option Session := do
  return {
    id := ← required fields "session_id" Value.text?
    conversation := ← required fields "conversation_id" Value.text?
    scenario := ← required fields "scenario_id" Value.text?
    node := ← defaulted fields "current_node_id" (nullable Value.text?) none
    awaiting := ← defaulted fields "awaiting_input" Value.asBool? false
    slots := ← defaulted fields "slots" readObject []
    messages := ← defaulted fields "messages" (readEach readMessage) []
    status := ← defaulted fields "status" readStatus .active
    language := ← defaulted fields "language" Value.text? "ko"
    selected := ← defaulted fields "selected_options" readSelected []
    version := ← defaulted fields "version" Value.asInt? 0
    created := ← defaulted fields "created_at" Moment.read? now
    updated := ← defaulted fields "updated_at" Moment.read? now }

def read (now : Moment) : Value → Except Fault Session
  | .object fields => (readFields now fields).elim (.error .invalidRecord) .ok
  | _ => .error .invalidRecord

namespace Change

/-- The fields that a change may name, and those that never change. -/
def fixedFields : List String :=
  ["session_id", "conversation_id", "scenario_id", "created_at", "version"]

def knownFields : List String := fixedFields ++ [
  "current_node_id", "awaiting_input", "slots", "messages", "status", "language",
  "selected_options", "updated_at"]

/-- Names that an update takes for itself. -/
def reservedNames : List String := ["self", "session_id", "expected_version"]

def inOrder (names : List String) : List String := names.mergeSort Text.precedes

def checkNames (names : List String) : Except Fault Unit :=
  let unknown := names.filter fun name => !knownFields.contains name
  let fixed := names.filter fixedFields.contains
  if !unknown.isEmpty then .error (.unknownFields (inOrder unknown))
  else if !fixed.isEmpty then .error (.immutableFields (inOrder fixed))
  else .ok ()

/-- A field that is changed if it is named. -/
def changed {α : Type} (fields : Mapping Value) (name : String) (read : Value → Option α) :
    Option (Option α) :=
  defaulted fields name (fun v => (read v).map some) none

def readFields (fields : Mapping Value) : Option Change := do
  return {
    node := ← changed fields "current_node_id" (nullable Value.text?)
    awaiting := ← changed fields "awaiting_input" Value.asBool?
    slots := ← changed fields "slots" readObject
    messages := ← changed fields "messages" (readEach readMessage)
    status := ← changed fields "status" readStatus
    language := ← changed fields "language" Value.text?
    selected := ← changed fields "selected_options" readSelected }

def read (fields : Mapping Value) : Except Fault Change :=
  (readFields fields).elim (.error .invalidRecord) .ok

def optionalField (name : String) (v : Option Value) : Mapping Value :=
  v.elim [] fun v => [(name, v)]

def toFields (change : Change) : Mapping Value :=
  optionalField "current_node_id" (change.node.map .ofText?) ++
  optionalField "awaiting_input" (change.awaiting.map .bool) ++
  optionalField "slots" (change.slots.map .object) ++
  optionalField "messages" (change.messages.map fun ms => .list (ms.map Message.toValue)) ++
  optionalField "status" (change.status.map fun s => .text s.name) ++
  optionalField "language" (change.language.map .text) ++
  optionalField "selected_options"
    (change.selected.map fun m => .object (m.map fun entry => (entry.1, .text entry.2)))

end Change

end Dialogue.Session
