import Dialogue.Event.Buffer
import Dialogue.Registry
import Dialogue.Session.Store
import Dialogue.Turn.Play
/-!
The manager of sessions. Its operations are steps of one state, so turns that wait for the world
interleave with everything else: a turn begins, its calls are answered one by one, and then it is
settled or expires. A turn works on the session as it was when it began and is written back only if
the session has not changed since.
-/
namespace Dialogue

/-- Where events go: to buffers that are drained, or to a log. -/
inductive Sink where
  | buffer (kept : Event.Buffer)
  | log (logged : List (String × Event))

namespace Sink

def publish (sink : Sink) (session : String) (events : List Event) : Sink :=
  match sink with
  | .buffer kept => .buffer (kept.publish session events)
  | .log logged => .log (logged ++ events.map fun event => (session, event))

/-- Why a sink refuses events. -/
def refusal? (sink : Sink) (session : String) (events : List Event) : Option Fault :=
  match sink with
  | .buffer kept => kept.refusal? session events
  | .log _ => none

def discard (sink : Sink) (session : String) : Sink :=
  match sink with
  | .buffer kept => .buffer (kept.discard session)
  | .log logged => .log logged

/-- The events of a session, which the sink then forgets; a log gives nothing back. -/
def drain (sink : Sink) (session : String) : List Event × Sink :=
  match sink with
  | .buffer kept =>
      let (events, rest) := kept.drain session
      (events, .buffer rest)
  | .log logged => ([], .log logged)

def pending (sink : Sink) (session : String) : Nat :=
  match sink with
  | .buffer kept => kept.pending session
  | .log _ => 0

end Sink

namespace Turn

/-- What a caller asks of a turn. Fields that are not given are null. -/
structure Request where
  text : Value
  handle : Value
  form : Value
  language : Value

/-- A turn without anything from the user. -/
def Request.bare (language : Value) : Request := ⟨.null, .null, .null, language⟩

def optionalText : Value → Except Fault (Option String)
  | .null => .ok none
  | .text s => .ok (some s)
  | _ => .error .invalidRecord

def formOf (v : Value) : Except Fault Slots :=
  match v.orElse (.object []) with
  | .object fields => .ok fields
  | _ => .error .invalidRecord

def Request.input (request : Request) : Except Fault Run.Input := do
  return ⟨← optionalText request.text, ← optionalText request.handle, ← formOf request.form⟩

/-- A turn that has begun and is not over: the session as it was marked, and the work that is
left. -/
structure Pending where
  id : Nat
  lock : Nat
  marked : Session
  input : Run.Input
  language : String
  work : Program (Except Fault Report)

/-- What a turn gives back: the session after it, its runs and their events. An `error` is a fault
that failed the session. -/
structure Outcome where
  session : Session
  results : List Run.Result
  events : List Event
  error : Option String

end Turn

/-- What stays the same while a manager works. -/
structure House where
  registry : Registry
  maxSteps : Nat
  maxRuns : Nat
  timeout : Float
  language : String
  apiBase : String
  today : Date

/-- A session that has had a turn has a lock, which is held while a turn is pending. Locks and turns
are told apart by numbers, of which `given` have been given out. -/
structure Manager where
  store : Store
  sink : Sink
  locks : Mapping Nat
  pending : List Turn.Pending
  given : Nat
  now : Moment

namespace Manager

def empty (sink : Sink) (now : Moment) : Manager := ⟨Store.empty, sink, [], [], 0, now⟩

def isHeld (m : Manager) (lock : Nat) : Bool := m.pending.any (·.lock = lock)

def session? (m : Manager) (id : String) : Except Fault (Option Session) := m.store.read m.now id

def require (m : Manager) (id : String) : Except Fault Session := do
  match ← m.session? id with
  | some session => return session
  | none => throw (.sessionNotFound id)

/-- Writes a change, if it can be made, and lets time go on. -/
def write (m : Manager) (id : String) (expected : Option Int) (change : Session.Change) :
    Except Fault (Session × Manager) := do
  let (session, store) ← m.store.update m.now id expected change
  return (session, { m with store := store, now := m.now.next })

/-- Forgets the lock of a session that is gone or over, unless it is held. -/
def release (m : Manager) (id : String) (lock : Nat) : Manager :=
  let live := match m.session? id with
    | .ok (some session) => !session.isTerminal
    | _ => false
  if !live && Mapping.get? m.locks id = some lock && !m.isHeld lock then
    { m with locks := Mapping.erase m.locks id }
  else m

/-- The setting of the runs of a session. -/
def setting (house : House) (scenario : Scenario) (id language : String) : Run.Setting :=
  ⟨⟨scenario, id, language, house.apiBase⟩, house.today, house.maxSteps⟩

/-- The work of a turn. A language that is no text stops it. -/
def work (house : House) (scenario : Scenario) (marked : Session) (input : Run.Input)
    (language : Value) : Program (Except Fault Turn.Report) :=
  match language with
  | .text language =>
      (Turn.play (setting house scenario marked.id language) house.maxRuns marked input).run
  | _ => .done (.error .invalidRecord)

/-- Marks a session whose turn can begin. -/
def enter (house : House) (m : Manager) (id : String) (lock : Nat) (request : Turn.Request) :
    Except Fault (Turn.Pending × Manager) := do
  let session ← m.require id
  if session.isTerminal then throw (.sessionTerminated id session.status)
  let scenario ← house.registry.require session.scenario
  let input ← request.input
  let language := request.language.orElse (.text session.language)
  let (marked, next) ← m.write id (some session.version) { status := some .generating }
  let turn : Turn.Pending :=
    ⟨m.given, lock, marked, input, language.text?.getD "",
      work house scenario marked input language⟩
  return (turn, { next with pending := next.pending ++ [turn], given := next.given + 1 })

/-- The lock of a session; one that has none gets a new one. -/
def lockOf (m : Manager) (id : String) : Nat := (Mapping.get? m.locks id).getD m.given

/-- Begins a turn, unless another turn of the session is pending. -/
def begin (house : House) (m : Manager) (id : String) (request : Turn.Request) :
    Except Fault Turn.Pending × Manager :=
  let lock := m.lockOf id
  if Mapping.has m.locks id && m.isHeld lock then (.error (.turnInProgress id), m)
  else
    let locked := { m with
      locks := Mapping.set m.locks id lock
      given := m.given + 1 }
    match enter house locked id lock request with
    | .ok (turn, next) => (.ok turn, next)
    | .error fault => (.error fault, locked.release id lock)

/-- Creates a session and begins its first turn. -/
def launch (house : House) (m : Manager) (conversation : Value) (scenario : String)
    (slots language : Value) : Except Fault Turn.Pending × Manager :=
  match house.registry.require scenario with
  | .error fault => (.error fault, m)
  | .ok _ =>
      let language := language.orElse (.text house.language)
      let (made, store) := m.store.create m.now conversation (.text scenario) slots language
      let next := { m with store := store, now := m.now.next }
      match made with
      | .ok id => begin house next id (.bare language)
      | .error fault => (.error fault, next)

/-- The work that a pending turn has left becomes another. -/
def setWork (m : Manager) (id : Nat) (work : Program (Except Fault Turn.Report)) : Manager :=
  { m with pending := m.pending.map fun turn =>
      if turn.id = id then { turn with work := work } else turn }

/-- The world answers the call that a pending turn waits for. -/
def resume (m : Manager) (turn : Turn.Pending) (answer : (call : Call) → call.Answer) : Manager :=
  match turn.work with
  | .ask call next => m.setWork turn.id (next (answer call))
  | .done _ => m

/-- Writes a change to a session at the version at which the turn began. A session that is over by
then stays as it is. -/
def conclude (m : Manager) (turn : Turn.Pending) (change : Session.Change) :
    Except Fault (Session × Manager) :=
  match m.write turn.marked.id (some turn.marked.version) change with
  | .error (.concurrentUpdate id expected actual) => do
      let current ← m.require turn.marked.id
      if current.isTerminal then return (current, m)
      else throw (.concurrentUpdate id expected actual)
  | outcome => outcome

/-- Publishes events of a session, and tells why the sink refuses them if it does. -/
def publish (m : Manager) (id : String) (events : List Event) : Option Fault × Manager :=
  (m.sink.refusal? id events, { m with sink := m.sink.publish id events })

/-- A turn that a fault has stopped fails its session. -/
def fail (m : Manager) (turn : Turn.Pending) (fault : Fault) :
    Except Fault Turn.Outcome × Manager :=
  let notice := Message.answered (Notice.unexpected.text turn.language)
  let change : Session.Change := {
    status := some .failed
    awaiting := some false
    messages := some (turn.marked.messages ++ Turn.said turn.input ++ [notice]) }
  match m.conclude turn change with
  | .ok (session, next) => (.ok ⟨session, [], [], some fault.message⟩, next)
  | .error fault => (.error fault, m)

/-- What is left of a turn whose session has changed since it began: nothing if the session is over
by now. -/
def yieldTo (m : Manager) (turn : Turn.Pending) (report : Turn.Report) (conflict : Fault) :
    Except Fault Turn.Outcome := do
  let current ← m.require turn.marked.id
  if current.isTerminal then return ⟨current, report.results, [], none⟩
  else throw conflict

/-- Writes back what the runs of a turn came to and publishes their events. -/
def commit (m : Manager) (turn : Turn.Pending) (report : Turn.Report) :
    Except Fault Turn.Outcome × Manager :=
  let id := turn.marked.id
  match m.write id (some turn.marked.version) report.change with
  | .ok (session, next) =>
      match next.publish id report.events with
      | (none, told) => (.ok ⟨session, report.results, report.events, none⟩, told)
      | (some fault, told) => told.fail turn fault
  | .error (.concurrentUpdate id expected actual) =>
      (m.yieldTo turn report (.concurrentUpdate id expected actual), m)
  | .error fault => m.fail turn fault

/-- Takes a turn out of those that are pending. -/
def remove (m : Manager) (turn : Turn.Pending) : Manager :=
  { m with pending := m.pending.filter (·.id ≠ turn.id) }

/-- The end of a turn: its lock is let go whatever the outcome. -/
def finish (m : Manager) (turn : Turn.Pending) : Manager :=
  (m.remove turn).release turn.marked.id turn.lock

/-- Ends a pending turn whose work has come to `result`. -/
def settle (m : Manager) (turn : Turn.Pending) (result : Except Fault Turn.Report) :
    Except Fault Turn.Outcome × Manager :=
  let (outcome, next) := match result with
    | .ok report => m.commit turn report
    | .error fault => m.fail turn fault
  (outcome, next.finish turn)

def timeoutToast (turn : Turn.Pending) : Event :=
  .toast turn.marked.id (Notice.timeout.text turn.language) "error"

/-- Ends a pending turn that takes too long. The session goes back to where it was. -/
def expire (house : House) (m : Manager) (turn : Turn.Pending) : Fault × Manager :=
  let id := turn.marked.id
  let late : Fault := .turnTimeout id (Decimal.plain.print house.timeout)
  match m.conclude turn { status := some .active } with
  | .ok (session, next) =>
      if session.isTerminal then (late, next.finish turn)
      else
        let (refused, told) := next.publish id [timeoutToast turn]
        (refused.getD late, told.finish turn)
  | .error fault => (fault, m.finish turn)

/-- Cancels a session, wherever it stands; one that is over stays as it is. -/
def cancel (m : Manager) (id : String) : Except Fault (Session × Manager) := do
  let session ← m.require id
  if session.isTerminal then return (session, m)
  let (canceled, next) ← m.write id none { status := some .canceled, awaiting := some false }
  match Mapping.get? next.locks id with
  | some lock =>
      if next.isHeld lock then return (canceled, next)
      else return (canceled, { next with locks := Mapping.erase next.locks id })
  | none => return (canceled, next)

/-- Remembers which reply the user chose on a message. -/
def select (m : Manager) (id : String) (node value : Value) :
    Except Fault (Session × Manager) := do
  let session ← m.require id
  let chosen := Mapping.set session.selected (← Store.expectText node) (← Store.expectText value)
  m.write id none { selected := some chosen }

def list (m : Manager) (conversation : String) : Except Fault (List Summary) :=
  m.store.list conversation

/-- Deletes a session with its lock and its events, and tells whether there was one. -/
def delete (m : Manager) (id : String) : Bool × Manager :=
  let (removed, store) := m.store.delete id
  (removed, { m with
    store := store
    sink := m.sink.discard id
    locks := Mapping.erase m.locks id })

end Manager

end Dialogue
