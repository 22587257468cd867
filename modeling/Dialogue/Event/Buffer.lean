import Dialogue.Fault
/-!
What a turn tells the interface beside its reply: toasts to show and links to open.
-/
namespace Dialogue

inductive EventKind where
  | toast
  | openLink
  deriving DecidableEq, Repr

def EventKind.name : EventKind → String
  | .toast => "toast"
  | .openLink => "open_link"

structure Event where
  kind : EventKind
  message : String
  tone : String
  url : String
  session : String
  deriving DecidableEq, Repr

namespace Event

def toast (session message tone : String) : Event := ⟨.toast, message, tone, "", session⟩

def openLink (session url : String) : Event := ⟨.openLink, "", "info", url, session⟩

def toValue (event : Event) : Value :=
  .object [("type", .text event.kind.name), ("message", .text event.message),
    ("toast_type", .text event.tone), ("url", .text event.url), ("session_id", .text event.session)]

end Event

end Dialogue

/-!
Buffers that keep the latest events of each session until they are drained. Of too many sessions the
one that was published to least recently is dropped. A limit below zero refuses all events.
-/
namespace Dialogue.Event

/-- The sessions stand in the order in which they were last published to. -/
structure Buffer where
  perSession : Int
  sessions : Int
  kept : Mapping (List Event)

namespace Buffer

def empty (perSession sessions : Int) : Buffer := ⟨perSession, sessions, []⟩

def events (buffer : Buffer) (session : String) : List Event :=
  (Mapping.get? buffer.kept session).getD []

/-- The last `n` items of a list. -/
def lastOf {α : Type} (n : Nat) (items : List α) : List α := items.drop (items.length - n)

/-- Why the limits of a buffer refuse events for a session. -/
def refusal? (buffer : Buffer) (session : String) (events : List Event) : Option Fault :=
  if events.isEmpty then none
  else if buffer.perSession < 0 then some (.malformed .limit)
  else if buffer.sessions < 0 then some (.missingField session)
  else none

/-- The buffer after events, also where it refuses them: then it keeps none for a session that has
no room, and forgets all sessions if there is no room for any. -/
def publish (buffer : Buffer) (session : String) (events : List Event) : Buffer :=
  if events.isEmpty || buffer.perSession < 0 then buffer
  else
    let all := lastOf buffer.perSession.toNat (buffer.events session ++ events)
    let kept := Mapping.erase buffer.kept session ++ [(session, all)]
    { buffer with kept := lastOf buffer.sessions.toNat kept }

def discard (buffer : Buffer) (session : String) : Buffer :=
  { buffer with kept := Mapping.erase buffer.kept session }

/-- The events of a session, which the buffer then forgets. -/
def drain (buffer : Buffer) (session : String) : List Event × Buffer :=
  (buffer.events session, buffer.discard session)

def pending (buffer : Buffer) (session : String) : Nat := (buffer.events session).length

end Buffer

end Dialogue.Event
