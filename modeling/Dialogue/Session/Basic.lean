import Dialogue.Moment
import Dialogue.Scenario.Basic
/-!
The states of a session's life. Completed, failed and canceled sessions never change again.
-/
namespace Dialogue

inductive Status where
  | active
  | completed
  | failed
  | canceled
  | generating
  deriving DecidableEq, Repr

namespace Status

def name : Status → String
  | .active => "active"
  | .completed => "completed"
  | .failed => "failed"
  | .canceled => "canceled"
  | .generating => "generating"

def all : List Status := [.active, .completed, .failed, .canceled, .generating]

def ofName? (s : String) : Option Status := all.find? (·.name = s)

def isTerminal : Status → Bool
  | .completed | .failed | .canceled => true
  | .active | .generating => false

theorem ofName?_name (status : Status) : ofName? status.name = some status := by
  cases status <;> decide

end Status

end Dialogue

/-!
Sessions: a scenario that a user is going through, with the transcript of what was said and shown.
-/
namespace Dialogue

inductive Sender where
  | user
  | bot
  deriving DecidableEq, Repr

namespace Sender

def name : Sender → String
  | .user => "user"
  | .bot => "bot"

def ofName? (s : String) : Option Sender :=
  if s = "user" then some .user else if s = "bot" then some .bot else none

end Sender

/-- An entry of a transcript: a text, or a node that was shown. -/
structure Message where
  sender : Sender
  text : Option String
  node : Option (Mapping Value)

namespace Message

def said (text : String) : Message := ⟨.user, some text, none⟩

def answered (text : String) : Message := ⟨.bot, some text, none⟩

def shown (node : Node) : Message :=
  ⟨.bot, none,
    some [("id", .text node.id), ("type", .text node.type), ("data", .object node.data)]⟩

def toValue (m : Message) : Value :=
  .object [("sender", .text m.sender.name), ("text", .ofText? m.text),
    ("node", m.node.elim .null .object)]

def storable (m : Message) : Message := { m with node := m.node.map Value.storableFields }

end Message

structure Session where
  id : String
  conversation : String
  scenario : String
  node : Option String
  awaiting : Bool
  slots : Slots
  messages : List Message
  status : Status
  language : String
  selected : Mapping String
  version : Int
  created : Moment
  updated : Moment

namespace Session

def isTerminal (s : Session) : Bool := s.status.isTerminal

/-- The form in which a session is stored. -/
def storable (s : Session) : Session :=
  { s with
    slots := Value.storableFields s.slots
    messages := s.messages.map Message.storable }

def toFields (s : Session) : Mapping Value := [
  ("session_id", .text s.id),
  ("conversation_id", .text s.conversation),
  ("scenario_id", .text s.scenario),
  ("current_node_id", .ofText? s.node),
  ("awaiting_input", .bool s.awaiting),
  ("slots", .object s.slots),
  ("messages", .list (s.messages.map Message.toValue)),
  ("status", .text s.status.name),
  ("language", .text s.language),
  ("selected_options", .object (s.selected.map fun entry => (entry.1, .text entry.2))),
  ("version", .int s.version),
  ("created_at", .text s.created.print),
  ("updated_at", .text s.updated.print)]

/-- A change of some fields of a session; the others stay. -/
structure Change where
  node : Option (Option String) := none
  awaiting : Option Bool := none
  slots : Option Slots := none
  messages : Option (List Message) := none
  status : Option Status := none
  language : Option String := none
  selected : Option (Mapping String) := none

def Change.apply (change : Change) (s : Session) : Session :=
  { s with
    node := change.node.getD s.node
    awaiting := change.awaiting.getD s.awaiting
    slots := change.slots.getD s.slots
    messages := change.messages.getD s.messages
    status := change.status.getD s.status
    language := change.language.getD s.language
    selected := change.selected.getD s.selected }

/-- The next version of a session. -/
def revise (s : Session) (now : Moment) (change : Change) : Session :=
  { change.apply s with version := s.version + 1, updated := now }

end Session

end Dialogue
