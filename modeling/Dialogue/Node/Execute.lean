import Dialogue.Node.Effect
import Dialogue.Node.Request
import Dialogue.Slot.Extraction
import Dialogue.Template
import Dialogue.Session.Param
import Dialogue.Slot.Coercion
/-!
Api nodes. All requests of a node start together; the first failure drops those that are still out
and writes none of their slots.
-/
namespace Dialogue.Node.Api

/-- What a request comes to, and when. One that cannot be prepared fails at once. -/
structure Landing where
  outcome : Except Fault Slot.Draft
  time : Nat

def send (prepared : Except Fault Prepared) : Program Landing :=
  match prepared with
  | .error fault => .done ⟨.error fault, 0⟩
  | .ok prepared => .ask (.send prepared.request) fun arrival =>
      .done ⟨arrival.reply.bind prepared.receive, arrival.delay⟩

def sendAll : List (Except Fault Prepared) → Program (List Landing)
  | [] => .done []
  | first :: rest => do
      let landing ← send first
      return landing :: (← sendAll rest)

/-- The failure that comes first; of two at the same time that of the earlier request. -/
def firstFailure? : List Landing → Option (Nat × Fault)
  | [] => none
  | landing :: rest =>
      match landing.outcome, firstFailure? rest with
      | .ok _, later => later
      | .error fault, none => some (landing.time, fault)
      | .error fault, some (time, other) =>
          if time < landing.time then some (time, other) else some (landing.time, fault)

def lastTime (landings : List Landing) : Nat :=
  landings.foldl (fun time landing => max time landing.time) 0

/-- What all requests write, later ones over earlier ones. -/
def merge (landings : List Landing) : Slot.Draft :=
  landings.foldl
    (fun draft landing => draft.update (landing.outcome.toOption.getD (.ofSlots [])))
    (.ofSlots [])

def conclude (landings : List Landing) : Attempt Slot.Draft := do
  match firstFailure? landings with
  | some (time, fault) =>
      let _ ← Attempt.call (.elapse time)
      throw fault
  | none =>
      let _ ← Attempt.call (.elapse (lastTime landings))
      return merge landings

/-- The configurations of the requests of a node. -/
def configs (node : Node) : Except Fault (List Value) :=
  let apis := node.get "apis"
  if (node.get "isMulti").truthy && apis.truthy then apis.elements else .ok [.object node.data]

def request (base : String) (node : Node) (slots : Slots) : Attempt Slot.Draft := do
  let configs ← Attempt.of (configs node)
  let landings ← ExceptT.lift (sendAll (configs.map (Prepared.ofConfig base slots)))
  conclude landings

def succeed (context : Context) (node : Node) (slots : Slots) (changes : Slot.Draft) :
    Except Fault Effect :=
  let draft := (Slot.Draft.ofSlots slots).update changes
  let flagged := Mapping.set (Mapping.erase draft.slots "apiError") "apiFailed" (.bool false)
  leaveWith context node (some "onSuccess") { draft with slots := flagged }

def fail (context : Context) (node : Node) (slots : Slots) (reason : String) :
    Except Fault Effect :=
  let flagged := Mapping.set (Mapping.set slots "apiError" (.text reason)) "apiFailed" (.bool true)
  leave context node (some "onError") flagged []

/-- Calls that fail and requests that cannot be completed take the error edge; other faults stop
the node. -/
def execute (context : Context) (node : Node) (slots : Slots) : Attempt Effect := do
  let kept := Mapping.erase slots Prepared.bodySlot
  match ← ExceptT.lift (request context.apiBase node slots).run with
  | .ok changes => Attempt.of (succeed context node kept changes)
  | .error (.apiCall reason) | .error (.transport reason) =>
      Attempt.of (fail context node kept reason)
  | .error fault => throw fault

end Dialogue.Node.Api

/-!
Llm nodes: a completion of the prompt goes to a slot, and slots may be extracted from it.
-/
namespace Dialogue.Node.Llm

/-- The completion of a prompt, in one piece or as a stream of chunks. -/
def complete (streaming : Bool) (prompt language : String) : Program (Except Fault String) :=
  if streaming then .ask (.stream prompt language) fun chunks => .done (chunks.map String.join)
  else .ask (.complete prompt language) .done

/-- Goes on at the error edge; without one the node fails. -/
def fail (context : Context) (node : Node) (slots : Slots) (reason : String) :
    Except Fault Effect := do
  let flagged := Mapping.set (Mapping.set slots "llmError" (.text reason)) "llmFailed" (.bool true)
  match ← context.scenario.follow node.id "onError" with
  | some next => return .goTo (some next) flagged []
  | none => return .fail flagged reason

/-- Reply and slots of a completion. -/
def read (node : Node) (output : String) : Slot.Extraction :=
  if (node.get "extractSlots").truthy then Slot.extract output else ⟨output, []⟩

def succeed (context : Context) (node : Node) (slots : Slots) (output : String) :
    Except Fault Effect := do
  let found := read node output
  let kept := Mapping.erase (Mapping.erase slots "llmError") "llmFailed"
  let draft := Slot.Draft.ofSlots (Mapping.update kept found.slots)
  let name := node.get "outputVar"
  let stored ← if name.truthy then draft.store name (.text found.reply) else pure draft
  leaveWith context node none stored

def execute (context : Context) (node : Node) (slots : Slots) : Attempt Effect := do
  let template := (Mapping.get? node.data "prompt").getD (.text "")
  let prompt ← Attempt.of (Template.fill template (.object slots) false)
  match ← ExceptT.lift (complete (node.get "streaming").truthy prompt context.language) with
  | .ok output => Attempt.of (succeed context node slots output)
  | .error (.completion reason) => Attempt.of (fail context node slots reason)
  | .error fault => throw fault

end Dialogue.Node.Llm

/-!
Executing a node. Interactive nodes wait for the user, the others act and go on; a node of no known
kind ends the scenario.
-/
namespace Dialogue.Node

/-- The page of an iframe node learns the session. -/
def executeIframe (context : Context) (node : Node) (slots : Slots) : Except Fault Effect := do
  let url := node.get "url"
  if !url.truthy || context.session = "" then return .waitAt node slots
  let marked ← Session.appendParamTo url context.session
  return .waitAt { node with data := Mapping.set node.data "url" (.text marked) } slots

def executeBranch (context : Context) (node : Node) (slots : Slots) : Except Fault Effect :=
  if node.isConditionBranch then leave context node none slots [] else .ok (.waitAt node slots)

def toastTone (node : Node) : Except Fault String :=
  match (node.get "toastType").orElse (.text "info") with
  | .text s => .ok s
  | _ => .error .invalidRecord

def executeToast (context : Context) (node : Node) (slots : Slots) : Except Fault Effect := do
  let template := (Mapping.get? node.data "message").getD (.text "")
  let message ← Template.fill template (.object slots) false
  leave context node none slots [.toast context.session message (← toastTone node)]

def executeLink (context : Context) (node : Node) (slots : Slots) : Except Fault Effect := do
  let target := (node.get "content").orElse (node.get "url")
  let events ←
    if target.truthy then do
      let url ← Template.fill target (.object slots) false
      pure [Event.openLink context.session url]
    else pure []
  leave context node none slots events

/-- Texts are filled in with the slots as earlier assignments left them. -/
def assign (draft : Slot.Draft) (assignment : Value) : Except Fault Slot.Draft := do
  let name := (← assignment.field "key").getD .null
  if !name.truthy then return draft
  let filled ← match (← assignment.field "value").getD .null with
    | .text s => Value.text <$> Template.fillText s (.object draft.slots) false
    | v => pure v
  draft.store name (← Slot.coerce filled)

def executeSetSlot (context : Context) (node : Node) (slots : Slots) : Except Fault Effect := do
  let assignments := node.get "assignments"
  let items ← if assignments.truthy then assignments.elements else pure []
  leaveWith context node none (← items.foldlM assign (.ofSlots slots))

def executeDelay (context : Context) (node : Node) (slots : Slots) : Attempt Effect := do
  match ← Attempt.of (Slot.duration? (node.get "duration")) with
  | some duration =>
      if duration > 0.0 then
        let _ ← Attempt.call (.sleep (duration / 1000.0))
  | none => pure ()
  Attempt.of (leave context node none slots [])

def execute (context : Context) (node : Node) (slots : Slots) : Attempt Effect :=
  match node.kind? with
  | none => Attempt.of (.ok (.goTo none slots []))
  | some .message | some .slotfilling | some .form => Attempt.of (.ok (.waitAt node slots))
  | some .iframe => Attempt.of (executeIframe context node slots)
  | some .branch => Attempt.of (executeBranch context node slots)
  | some .toast => Attempt.of (executeToast context node slots)
  | some .link => Attempt.of (executeLink context node slots)
  | some .setSlot => Attempt.of (executeSetSlot context node slots)
  | some .api => Api.execute context node slots
  | some .llm => Llm.execute context node slots
  | some .delay => executeDelay context node slots

end Dialogue.Node
