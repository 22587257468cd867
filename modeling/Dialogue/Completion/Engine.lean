import Dialogue.Completion.Token
import Dialogue.Settings
import Dialogue.Text.Blank
import Dialogue.Program
/-!
Clients of models: what the models are told, what the clients are called with, and what they answer
in blocks or in chunks.
-/
namespace Dialogue.Completion

/-- The English name of a language; for one that is not known, English itself. -/
def languageName (language : String) : String :=
  if language = "ko" then "Korean" else "English"

/-- What a model is told before every prompt. -/
def instruction (language : String) : String :=
  "You are a helpful assistant inside a chatbot scenario. Always respond in " ++
    languageName language ++ "."

/-- What one side says to a model. -/
structure Remark where
  role : String
  content : String
  deriving DecidableEq, Repr

/-- A call of a client. What the model is told beforehand stands apart, or first among the
remarks. -/
structure Ask where
  model : Value
  maxTokens : Value
  temperature : Value
  system : Option String
  remarks : List Remark
  streams : Bool

structure Block where
  isText : Bool
  text : String
  deriving DecidableEq, Repr

/-- An answer in blocks, and the same in chunks, each of which may turn out to be a failure. -/
structure Answer where
  blocks : List Block
  chunks : List (Except String String)

/-- The texts of the blocks that are texts. -/
def Answer.text (answer : Answer) : String :=
  String.join ((answer.blocks.filter Block.isText).map Block.text)

/-- What a client comes to; a failure has a wording only. -/
abbrev Model := Peer Ask (Except String Answer)

namespace Client

/-- Where a model is told what to do: in a remark of its own, or beside the remarks. -/
inductive Style where
  | systemFirst
  | systemApart
  deriving DecidableEq, Repr

def Style.ofProvider (provider : Value) : Style :=
  if provider.isText "openai" then .systemFirst else .systemApart

def ask (style : Style) (settings : CompletionSettings) (prompt language : String)
    (streams : Bool) : Ask :=
  let system := instruction language
  let said : Remark := ⟨"user", prompt⟩
  match style with
  | .systemFirst =>
      ⟨settings.model, settings.maxTokens, settings.temperature, none,
        [⟨"system", system⟩, said], streams⟩
  | .systemApart =>
      ⟨settings.model, settings.maxTokens, settings.temperature, some system, [said], false⟩

def attempt (ask : Ask) (model : Model) : Except Failure Value × Model :=
  let (outcome, next) := model.ask ask
  ((outcome.mapError Failure.client).map fun answer => .text answer.text, next)

/-- The chunks before the first failure, and that failure. -/
def collect : List (Except String String) → List String × Option Failure
  | [] => ([], none)
  | .ok chunk :: rest =>
      let (chunks, failure) := collect rest
      (chunk :: chunks, failure)
  | .error reason :: _ => ([], some (.client reason))

/-- Where that takes a remark, chunks without text are passed over. -/
def shown (style : Style) (chunks : List String) : List String :=
  match style with
  | .systemFirst => chunks.filter (· ≠ "")
  | .systemApart => chunks

def stream (style : Style) (ask : Ask) (model : Model) :
    (List String × Option Failure) × Model :=
  match model.ask ask with
  | (.error reason, next) => (([], some (.client reason)), next)
  | (.ok answer, next) =>
      let (chunks, failure) := collect answer.chunks
      ((shown style chunks, failure), next)

end Client

end Dialogue.Completion

/-!
Prediction endpoints: a question is posted as JSON and answered with a JSON body, or with one event
a line.
-/
namespace Dialogue.Completion.Endpoint

open Dialogue.Text

/-- The request that puts a question to the endpoint at `url`. -/
def request (url prompt : String) (streaming : Bool) : Http.Request :=
  ⟨"POST", url, [], .object [("question", .text prompt), ("streaming", .bool streaming)]⟩

/-- Where the endpoint is; nothing if the settings do not say. -/
def url? (settings : CompletionSettings) : Option String :=
  if settings.flowiseUrl.truthy then some (settings.flowiseUrl.text?.getD "") else none

/-- One attempt to get a good answer. Redirects are not followed. -/
def post (url prompt : String) (streaming : Bool) (server : Http.Server) :
    Except Failure Http.Response × Http.Server :=
  match Http.Outgoing.ofRequest (request url prompt streaming) with
  | .error cause => (.error (.http (.unsendable cause)), server)
  | .ok outgoing =>
      let (outcome, next) := Http.exchange outgoing server
      match outcome with
      | .error cause => (.error (.http cause), next)
      | .ok reply =>
          if reply.response.ok then (.ok reply.response, next)
          else (.error (.status reply.response.status), next)

/-- The completion in a body: the text of an object, else its answer; any other value is
displayed. -/
def read (body : String) : Except Fault Value := do
  match ← Json.readBody body with
  | .object fields =>
      let text := (Mapping.get? fields "text").getD .null
      return text.orElse (((Mapping.get? fields "answer").getD .null).orElse (.text ""))
  | v => return .text (← v.display)

def attempt (settings : CompletionSettings) (prompt : String) (server : Http.Server) :
    Except Failure Value × Http.Server :=
  match url? settings with
  | none => (.error .unconfigured, server)
  | some url =>
      let (outcome, next) := post url prompt false server
      (outcome.bind fun response => (read response.text).mapError .unreadable, next)

/-- The tokens in a body that has one event a line. -/
def tokens (body : String) : List String :=
  ((lines body.toList).map fun line => lineToken (String.ofList line)).filter (· ≠ "")

def stream (settings : CompletionSettings) (prompt : String) (server : Http.Server) :
    (List String × Option Failure) × Http.Server :=
  match url? settings with
  | none => (([], some .unconfigured), server)
  | some url =>
      match post url prompt true server with
      | (.ok response, next) => ((tokens response.text, none), next)
      | (.error failure, next) => (([], some failure), next)

end Dialogue.Completion.Endpoint

/-!
Completions from a provider, in one piece or as a stream. An answer in one piece is tried for three
times and must not be empty; a stream is what comes of one attempt.
-/
namespace Dialogue.Completion

/-- Whether a provider is an endpoint that is posted to; all others have clients. -/
def isEndpoint (settings : CompletionSettings) : Bool := settings.provider.isText "flowise"

/-- Whether settings stand for canned answers: they ask for them, or they lack the key of a provider
that needs one. A key that still names a variable is none. -/
def isCanned (settings : CompletionSettings) : Except Fault Bool :=
  let needsKey := settings.provider.isText "anthropic" || settings.provider.isText "openai"
  if settings.provider.isText "mock" then .ok true
  else if !needsKey then .ok false
  else if !settings.apiKey.truthy then .ok true
  else
    match settings.apiKey with
    | .text key => .ok ("$\x7b".toList.isPrefixOf key.toList)
    | v => .error (.clash (.lacksFields v.kind))

/-- An answer that says nothing is none. -/
def nonEmpty (outcome : Except Failure Value) : Except Failure Value :=
  outcome.bind fun v => if v.truthy then .ok v else .error .empty

/-- The completion that up to three attempts come to. -/
def complete {σ : Type} (wait : σ → Nat → σ) (attempt : σ → Except Failure Value × σ) (s : σ) :
    Except Failure Value × σ :=
  let (outcome, next) := thrice Failure.isPassing wait attempt s
  (nonEmpty outcome, next)

namespace Endpoint

def complete (settings : CompletionSettings) (prompt : String) (server : Http.Server) :
    Except Failure Value × Http.Server :=
  Completion.complete Peer.wait (attempt settings prompt) server

/-- A world in which one server answers every request, and prompts as an endpoint. Nothing in it
takes time. -/
def answer (settings : CompletionSettings) (server : Http.Server) :
    (call : Call) → call.Answer × Http.Server
  | .send request =>
      let (outcome, next) := Http.send request server
      (⟨outcome, 0⟩, next)
  | .elapse _ => ((), server)
  | .complete prompt _ =>
      let (outcome, next) := complete settings prompt server
      ((outcome.mapError Failure.fault).bind Value.display, next)
  | .stream prompt _ =>
      let ((chunks, failure), next) := stream settings prompt server
      (failure.elim (.ok chunks) fun failure => .error failure.fault, next)
  | .sleep _ => ((), server)

end Endpoint

namespace Client

def complete (settings : CompletionSettings) (prompt language : String) (model : Model) :
    Except Failure Value × Model :=
  let style := Style.ofProvider settings.provider
  Completion.complete Peer.wait (attempt (ask style settings prompt language false)) model

def streamOf (settings : CompletionSettings) (prompt language : String) (model : Model) :
    (List String × Option Failure) × Model :=
  let style := Style.ofProvider settings.provider
  stream style (ask style settings prompt language true) model

end Client

end Dialogue.Completion
