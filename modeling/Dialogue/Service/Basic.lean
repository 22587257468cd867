import Dialogue.Bundled
import Dialogue.Service.Endpoint
import Dialogue.Session.Schedule
import Dialogue.Settings
/-!
The service: requests to its endpoints are answered by the manager of sessions, its registry and its
events, as JSON values.
-/
namespace Dialogue.Service

structure Request where
  method : String
  target : String
  body : String

structure Response where
  status : Nat
  body : Value

namespace Response

def ok (body : Value) : Response := ⟨200, body⟩

def detail (status : Nat) (message : String) : Response :=
  ⟨status, .object [("detail", .text message)]⟩

/-- The status for a fault. -/
def statusOf : Fault → Nat
  | .scenarioNotFound _ | .sessionNotFound _ => 404
  | .invalidScenario _ _ => 422
  | .sessionTerminated _ _ | .turnInProgress _ | .concurrentUpdate _ _ _ => 409
  | .turnTimeout _ _ => 504
  | _ => 500

/-- Callers are told of the faults that are to be expected. -/
def fault (fault : Fault) : Response :=
  match fault.name? with
  | some name =>
      ⟨statusOf fault, .object [("detail", .text fault.message), ("error", .text name)]⟩
  | none => ⟨500, .text "Internal Server Error"⟩

def refusal : Form.Refusal → Response
  | .unreadable => detail 400 "There was an error parsing the body"
  | .unfit complaints =>
      ⟨422, .object [("detail", .list (complaints.map Complaint.toValue))]⟩

/-- A response from what an operation comes to. -/
def ofResult {α : Type} (status : Nat) (body : α → Value) : Except Fault α → Response
  | .ok a => ⟨status, (body a).storable⟩
  | .error cause => fault cause

end Response

/-- What a caller sees of a turn: the last of its runs, and all that came of it. -/
def outcomeBody (outcome : Turn.Outcome) : Value :=
  let last := outcome.results.getLast?
  .object [("type", .ofText? (last.map Run.Result.name)),
    ("message", last.elim (.ofText? outcome.error) fun result => .text result.message),
    ("next_node", (last.bind Run.Result.shown?).elim .null Node.toValue),
    ("session", .object outcome.session.toFields),
    ("results", .list (outcome.results.map Run.Result.toValue)),
    ("events", .list (outcome.events.map Event.toValue))]

def sessionBody (session : Session) : Value := .object session.toFields

def scenarioBody (s : Scenario) : Value :=
  .object [("id", .text s.id), ("name", .text s.name), ("description", .text s.description),
    ("nodes", .int s.nodes.length)]

def actionBody (action : Action) : Value :=
  .object [("type", .text action.type), ("value", .text action.value)]

def launchForm : Form :=
  [("scenario_id", .text), ("slots", .optionalObject), ("language", .optionalText)]

def turnForm : Form :=
  [("text", .optionalText), ("source_handle", .optionalText), ("form_data", .optionalObject),
    ("language", .optionalText)]

def selectForm : Form := [("message_node_id", .text), ("value", .text)]

def shortcutForm : Form := [("text", .text), ("language", .optionalText)]

def given (fields : Mapping Value) (name : String) : Value := (Mapping.get? fields name).getD .null

def textOf (fields : Mapping Value) (name : String) : String := ((given fields name).text?).getD ""

/-- The outcome of a turn that has been waited for. -/
def outcomeOf (begun : Except Fault Nat × Schedule) : Except Fault Turn.Outcome := do
  match begun.2.outcome? (← begun.1) with
  | some outcome => outcome
  | none => throw (.crash "the turn is not over")

def respondHealth (s : Schedule) : Response :=
  .ok (.object [("status", .text "healthy"), ("timestamp", .text s.manager.now.printNumeric),
    ("scenarios", .int s.house.registry.list.length)])

def respondShortcut (s : Schedule) (fields : Mapping Value) : Response :=
  match s.house.registry.action? (textOf fields "text") with
  | .error fault => .fault fault
  | .ok none => .detail 404 "No shortcut matches this text"
  | .ok (some action) =>
      if action.type = "scenario" && (s.house.registry.get? action.value).isNone then
        let language := (given fields "language").orElse (.text s.house.language)
        .detail 404 (Notice.scenarioMissing.text (language.text?.getD ""))
      else .ok (actionBody action)

def respondLaunch (s : Schedule) (conversation : String) (fields : Mapping Value) :
    Response × Schedule :=
  let slots := (Mapping.get? fields "slots").getD (.object [])
  let begun := s.launch (.text conversation) (textOf fields "scenario_id") slots
    (given fields "language")
  (.ofResult 201 outcomeBody (outcomeOf begun), begun.2)

def respondTurn (s : Schedule) (id : String) (fields : Mapping Value) : Response × Schedule :=
  let begun := s.turn id ⟨given fields "text", given fields "source_handle",
    given fields "form_data", given fields "language"⟩
  (.ofResult 200 outcomeBody (outcomeOf begun), begun.2)

/-- Answers with a session that has been changed. -/
def respondChange (s : Schedule) (changed : Except Fault (Session × Manager)) :
    Response × Schedule :=
  match changed with
  | .ok (session, manager) =>
      (.ok (sessionBody session).storable, { s with manager := manager })
  | .error fault => (.fault fault, s)

def respondDelete (s : Schedule) (id : String) : Response × Schedule :=
  let (removed, manager) := s.manager.delete id
  (if removed then .ok (.object [("deleted", .text id)])
    else .detail 404 ("Scenario session '" ++ id ++ "' not found"),
    { s with manager := manager })

/-- Answers with the events of a session, which are then forgotten. -/
def respondEvents (s : Schedule) (id : String) : Response × Schedule :=
  match s.manager.require id with
  | .error fault => (.fault fault, s)
  | .ok _ =>
      let (events, sink) := s.manager.sink.drain id
      (.ok (.list (events.map Event.toValue)),
        { s with manager := { s.manager with sink := sink } })

/-- Reads the body by a form and goes on with its fields. -/
def withForm (s : Schedule) (form : Form) (body : String)
    (respond : Mapping Value → Response × Schedule) : Response × Schedule :=
  match form.read body with
  | .ok fields => respond fields
  | .error refusal => (.refusal refusal, s)

def serve (s : Schedule) (body : String) : Endpoint → Response × Schedule
  | .health => (respondHealth s, s)
  | .scenarios => (.ok (.list (s.house.registry.list.map scenarioBody)), s)
  | .shortcut => withForm s shortcutForm body fun fields => (respondShortcut s fields, s)
  | .launch conversation => withForm s launchForm body (respondLaunch s conversation)
  | .sessions conversation =>
      (.ofResult 200 (fun found => .list (found.map Summary.toValue))
        (s.manager.list conversation), s)
  | .session id => (.ofResult 200 sessionBody (s.manager.require id), s)
  | .turn id => withForm s turnForm body (respondTurn s id)
  | .cancel id => respondChange s (s.manager.cancel id)
  | .select id => withForm s selectForm body fun fields =>
      respondChange s (s.manager.select id (given fields "message_node_id") (given fields "value"))
  | .delete id => respondDelete s id
  | .events id => respondEvents s id

def handle (s : Schedule) (request : Request) : Response × Schedule :=
  match Endpoint.find request.method request.target with
  | .nothing => (.detail 404 "Not Found", s)
  | .otherMethods => (.detail 405 "Method Not Allowed", s)
  | .endpoint endpoint => serve s request.body endpoint

/-- A service that starts with settings and the files of its scenarios. A file that cannot be
registered leaves out those after it. -/
def start (settings : Settings) (files : List (String × String)) (script : Script) (today : Date)
    (now : Moment) : Except Fault Schedule := do
  let scenario := settings.scenario
  let shelved ← Registry.empty.setCategories scenario.categories
  let house : House := {
    registry := (shelved.load files).1
    maxSteps := scenario.maxSteps.toNat
    maxRuns := scenario.maxSteps.toNat
    timeout := scenario.turnTimeout
    language := scenario.defaultLanguage.text?.getD ""
    apiBase := Node.Prepared.trimBase (scenario.apiBaseUrl.text?.getD "")
    today := today }
  return ⟨house, .empty (.buffer (.empty 100 1000)) now, script, true, []⟩

end Dialogue.Service
