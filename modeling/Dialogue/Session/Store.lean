import Dialogue.Session.Reading
import Dialogue.Value.Convert
/-!
Stores of sessions. Every update makes a new version; an update that names the version it expects
fails if the session has changed since. A record that was found in a file is read when it is needed.
-/
namespace Dialogue

open Dialogue.Text

/-- A record of a store. -/
inductive Entry where
  | known (session : Session)
  | unread (raw : Value)

namespace Entry

def toValue : Entry → Value
  | .known session => .object session.toFields
  | .unread raw => raw

/-- The session of a record, if it holds anything at all. -/
def session? (now : Moment) : Entry → Except Fault (Option Session)
  | .known session => .ok (some session)
  | .unread raw => if raw.truthy then (Session.read now raw).map some else .ok none

/-- An item of a record that has been stored as a value. -/
def item (raw : Value) (name : String) : Except Fault Value :=
  match raw with
  | .object fields => (Mapping.get? fields name).elim (.error (.missingField name)) .ok
  | other => .error (.clash (.lacksItems other.kind))

/-- What a version counts that is written as a value. -/
def count? : Value → Option Int
  | .int n => some n
  | .bool b => some (if b then 1 else 0)
  | .float x => Decimal.integral? x
  | _ => none

/-- Whether two values write the same version. -/
def isSameVersion (found expected : Value) : Bool :=
  match found, expected with
  | .text s, .text t => s = t
  | .float x, .float y => x == y
  | _, _ => (count? found).isSome && count? found = count? expected

/-- The version after the one that has been stored as a value. -/
def versionAfter (v : Value) : Except Fault Value :=
  match v with
  | .int n => .ok (.int (n + 1))
  | .bool b => .ok (.int (if b then 2 else 1))
  | .float x => .ok (.float (x + 1.0))
  | other => .error (.clash (.notANumber other.kind))

/-- The version of a record, as a value. -/
def version : Entry → Except Fault Value
  | .known session => .ok (.int session.version)
  | .unread raw => item raw "version"

/-- Fails if the version is not the expected one. -/
def expect (id : String) (expected : Value) (entry : Entry) : Except Fault Unit := do
  let found ← entry.version
  if !isSameVersion found expected then
    throw (.concurrentUpdate id (← expected.display) (← found.display))

/-- The next version of a record that has been stored as a value. -/
def reviseRaw (now : Moment) (raw : Value) (changes : Mapping Value) : Except Fault Session :=
  match raw with
  | .object fields => do
      let version ← versionAfter (← item raw "version")
      let changed := Mapping.set (Mapping.update fields changes) "version" version
      Session.read now (.object (Mapping.set changed "updated_at" (.text now.print)))
  | other => .error (.clash (.lacksItems other.kind))

end Entry

/-- A session in a listing. -/
structure Summary where
  session : String
  scenario : String
  status : Status
  updated : Moment

namespace Summary

def toValue (s : Summary) : Value :=
  .object [("session_id", .text s.session), ("scenario_id", .text s.scenario),
    ("status", .text s.status.name), ("updated_at", .text s.updated.print)]

def ofFields (fields : Mapping Value) : Option Summary := do
  return ⟨← Session.required fields "session_id" Value.text?,
    ← Session.required fields "scenario_id" Value.text?,
    ← Session.required fields "status" Session.readStatus,
    ← Session.required fields "updated_at" Moment.read?⟩

/-- The summary of a record that has been stored as a value, if it belongs to `conversation`. -/
def ofRaw? (conversation : String) (raw : Value) : Except Fault (Option Summary) := do
  if !(← Entry.item raw "conversation_id").isText conversation then return none
  let fields ← ["session_id", "scenario_id", "status", "updated_at"].mapM fun name => do
    return (name, ← Entry.item raw name)
  match ofFields fields with
  | some summary => return some summary
  | none => throw .invalidRecord

def ofEntry? (conversation : String) : Entry → Except Fault (Option Summary)
  | .known s =>
      .ok (if s.conversation = conversation then some ⟨s.id, s.scenario, s.status, s.updated⟩
        else none)
  | .unread raw => ofRaw? conversation raw

/-- Latest first. Local moments and others have no common order. -/
def inOrder (summaries : List Summary) : Except Fault (List Summary) :=
  if summaries.any (·.updated.isZoned) && summaries.any (!·.updated.isZoned) then
    .error (.clash .mixedClocks)
  else .ok (summaries.mergeSort fun a b => b.updated.instant ≤ a.updated.instant)

end Summary

/-- Sessions by id, in the order in which they were added, and the number of ids given out. -/
structure Store where
  entries : Mapping Entry
  given : Nat

namespace Store

def empty : Store := ⟨[], 0⟩

def put (store : Store) (session : Session) : Store :=
  { store with entries := Mapping.set store.entries session.id (.known session.storable) }

def freshId (store : Store) : String := "s" ++ toString (store.given + 1)

/-- A new session, before it has entered its scenario. -/
def start (now : Moment) (id conversation scenario language : String) (slots : Slots) : Session :=
  { id := id, conversation := conversation, scenario := scenario, node := none, awaiting := false,
    slots := slots, messages := [], status := .active, language := language, selected := [],
    version := 0, created := now, updated := now }

def add (store : Store) (now : Moment) (conversation scenario language : String) (slots : Slots) :
    String × Store :=
  let id := store.freshId
  let next := { store with given := store.given + 1 }
  (id, next.put (start now id conversation scenario language slots))

def expectText : Value → Except Fault String
  | .text s => .ok s
  | _ => .error .invalidRecord

/-- Adds a session that is given by values. An id is given out even if they are unusable. -/
def create (store : Store) (now : Moment) (conversation scenario slots language : Value) :
    Except Fault String × Store :=
  let made : Except Fault (String × Store) := do
    let slots ← (slots.orElse (.object [])).toFields
    return store.add now (← expectText conversation) (← expectText scenario)
      (← expectText language) slots
  match made with
  | .ok (id, next) => (.ok id, next)
  | .error fault => (.error fault, { store with given := store.given + 1 })

def read (store : Store) (now : Moment) (id : String) : Except Fault (Option Session) :=
  match Mapping.get? store.entries id with
  | some entry => entry.session? now
  | none => .ok none

/-- The record of an id, which holds something. -/
def entry (store : Store) (id : String) : Except Fault Entry :=
  match Mapping.get? store.entries id with
  | none | some (.unread .null) => .error (.sessionNotFound id)
  | some entry => .ok entry

/-- The record of an id at the version that is expected; null expects none. -/
def current (store : Store) (id : String) (expected : Value) : Except Fault Entry := do
  let entry ← store.entry id
  if !expected.isNull then entry.expect id expected
  return entry

/-- Changes a session, and gives it back in its new version. -/
def update (store : Store) (now : Moment) (id : String) (expected : Option Int)
    (change : Session.Change) : Except Fault (Session × Store) := do
  let session ← match ← store.current id (expected.elim .null .int) with
    | .known session => pure (session.revise now change)
    | .unread raw => Entry.reviseRaw now raw change.toFields
  return (session, { store with
    entries := Mapping.set store.entries id (.known session.storable) })

/-- Changes a session by fields that are given by name, at a version that is given by a value. -/
def updateFields (store : Store) (now : Moment) (id : String) (expected : Value)
    (fields : Mapping Value) : Except Fault (Session × Store) := do
  if (Mapping.keys fields).any Session.Change.reservedNames.contains then
    throw (.clash .repeatedArgument)
  let entry ← store.current id expected
  Session.Change.checkNames (Mapping.keys fields)
  let session ← match entry with
    | .known session => do pure (session.revise now (← Session.Change.read fields))
    | .unread raw => Entry.reviseRaw now raw fields
  return (session, { store with
    entries := Mapping.set store.entries id (.known session.storable) })

/-- Removes a session, and tells whether its record held something. -/
def delete (store : Store) (id : String) : Bool × Store :=
  match Mapping.get? store.entries id with
  | none => (false, store)
  | some entry =>
      (!entry.toValue.isNull, { store with entries := Mapping.erase store.entries id })

/-- The sessions of a conversation, the one written last first. -/
def list (store : Store) (conversation : String) : Except Fault (List Summary) := do
  let found ← (store.entries.map Prod.snd).mapM (Summary.ofEntry? conversation)
  Summary.inOrder (found.filterMap id)

end Store

end Dialogue
