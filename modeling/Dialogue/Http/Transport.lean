import Dialogue.Http.Outgoing
/-!
The other end of a connection, which answers from a script, and trying again when it fails.
-/
namespace Dialogue

/-- The answers to come are given out one by one, then `fallback` for ever. What was asked and how
many milliseconds were waited is remembered. -/
structure Peer (Question Answer : Type) where
  upcoming : List Answer
  fallback : Answer
  asked : List Question
  waits : List Nat

namespace Peer

variable {Question Answer : Type}

def ofScript (upcoming : List Answer) (fallback : Answer) : Peer Question Answer :=
  ⟨upcoming, fallback, [], []⟩

def ask (peer : Peer Question Answer) (question : Question) : Answer × Peer Question Answer :=
  let asked := peer.asked ++ [question]
  match peer.upcoming with
  | answer :: rest => (answer, { peer with upcoming := rest, asked := asked })
  | [] => (peer.fallback, { peer with asked := asked })

def wait (peer : Peer Question Answer) (milliseconds : Nat) : Peer Question Answer :=
  { peer with waits := peer.waits ++ [milliseconds] }

end Peer

/-- Makes an attempt and repeats it after each failure that `again` holds of, at most `more` times.
The waits between attempts double. -/
def retry {σ ε α : Type} (again : ε → Bool) (wait : σ → Nat → σ)
    (attempt : σ → Except ε α × σ) : (more pause : Nat) → σ → Except ε α × σ
  | 0, _, s => attempt s
  | more + 1, pause, s =>
      match attempt s with
      | (.ok a, next) => (.ok a, next)
      | (.error e, next) =>
          if again e then retry again wait attempt more (2 * pause) (wait next pause)
          else (.error e, next)

/-- Three attempts in all, the second of them a second after the first. -/
def thrice {σ ε α : Type} (again : ε → Bool) (wait : σ → Nat → σ)
    (attempt : σ → Except ε α × σ) : σ → Except ε α × σ :=
  retry again wait attempt 2 1000

end Dialogue

/-!
Sending requests. A connection that cannot be made is tried again, since the server has not seen the
request; nothing else is. Redirects are followed.
-/
namespace Dialogue.Http

/-- How an attempt to send a request fails. After `unreachable` alone it is certain that the server
has not seen it. -/
inductive Failure where
  | unreachable (reason : String)
  | broken (kind reason : String)
  | unsendable (cause : Unsendable)
  | noServer
  | badRedirect
  | endlessRedirects
  deriving DecidableEq, Repr

namespace Failure

def isUnreachable : Failure → Bool
  | .unreachable _ => true
  | _ => false

/-- What is known of a failure beside its name. -/
def reason? : Failure → Option String
  | .unreachable reason | .broken _ reason => some reason
  | _ => none

def name : Failure → String
  | .unreachable _ => "ConnectError"
  | .broken kind _ => kind
  | .unsendable cause => cause.label
  | .noServer => "ValueError"
  | .badRedirect => "RemoteProtocolError"
  | .endlessRedirects => "TooManyRedirects"

def message (failure : Failure) : String :=
  failure.reason?.elim failure.name fun reason => failure.name ++ ": " ++ reason

end Failure

/-- A response, and where it redirects to if it does. -/
structure Reply where
  response : Response
  location : Option String

abbrev Server := Peer Outgoing (Except Failure Reply)

/-- One request and what is answered to it. An answer that no server has given is of no use. -/
def exchange (request : Outgoing) (server : Server) : Except Failure Reply × Server :=
  match server.ask request with
  | (.ok reply, next) =>
      if request.address.scheme.isEmpty then (.error .noServer, next) else (.ok reply, next)
  | failed => failed

def redirects : List Int := [301, 302, 303, 307, 308]

def Reply.target? (reply : Reply) : Option String :=
  if redirects.contains reply.response.status then reply.location else none

/-- The method after a redirect: what has been posted is fetched, as is everything after a status
that says so. -/
def redirectedMethod (method : String) (status : Int) : String :=
  if (status = 303 || status = 302) && method ≠ "HEAD" then "GET"
  else if status = 301 && method = "POST" then "GET"
  else method

/-- The request that follows a redirect to `target`. Credentials stay with their server. -/
def Outgoing.redirected (request : Outgoing) (status : Int) (target : Address) : Outgoing :=
  let method := redirectedMethod request.method status
  let old := request.address
  let new := old.follow target
  let address := { new with fragment := (new.fragment.filter (!·.isEmpty)).or old.fragment }
  let trusted := address.isSameOrigin old || old.isUpgrade address
  { method
    address
    headers := if trusted then request.headers else Mapping.erase request.headers "authorization"
    body := if method = request.method then request.body else "" }

/-- Sends a request and goes where its answers redirect to, at most `more` times. -/
def sendFollowing : (more : Nat) → Outgoing → Server → Except Failure Response × Server
  | more, request, server =>
    match exchange request server with
    | (.error failure, next) => (.error failure, next)
    | (.ok reply, next) =>
        match reply.target? with
        | none => (.ok reply.response, next)
        | some target =>
            match Address.parse? target.toList, more with
            | none, _ => (.error .badRedirect, next)
            | some _, 0 => (.error .endlessRedirects, next)
            | some address, more + 1 =>
                sendFollowing more (request.redirected reply.response.status address) next

def maxRedirects : Nat := 20

/-- One attempt to have a request answered. -/
def attempt (request : Request) (server : Server) : Except Failure Response × Server :=
  match Outgoing.ofRequest request with
  | .ok outgoing => sendFollowing maxRedirects outgoing server
  | .error cause => (.error (.unsendable cause), server)

/-- The answer to a request, after up to three attempts. -/
def send (request : Request) (server : Server) : Except Fault Response × Server :=
  let (outcome, next) := thrice Failure.isUnreachable Peer.wait (attempt request) server
  (outcome.mapError fun failure => .transport failure.message, next)

end Dialogue.Http
