import Dialogue.Program
/-!
A world that answers from a script and keeps a journal of what it was asked.
-/
namespace Dialogue

/-- What a server comes to for requests of one method and URL. -/
structure Route where
  method : String
  url : String
  arrival : Http.Arrival

/-- Requests as they were started, the URLs of those that came to something in the order in which
they did, prompts with their languages, and seconds slept. -/
structure Journal where
  requests : List Http.Request
  answered : List String
  prompts : List (String × String)
  sleeps : List Float

def Journal.empty : Journal := ⟨[], [], [], []⟩

/-- The completions are handed out in order, then `fallback` for ever. Requests that are out wait
for their time to come. -/
structure Script where
  routes : List Route
  completions : List (Except Fault String)
  fallback : Except Fault String
  waiting : List (String × Nat)
  journal : Journal

namespace Script

def empty : Script := ⟨[], [], .ok "OK", [], Journal.empty⟩

/-- The first route for a request; without one there is nothing to be found. -/
def arrivalOf (script : Script) (request : Http.Request) : Http.Arrival :=
  match script.routes.find? fun r => r.method = request.method && r.url = request.url with
  | some route => route.arrival
  | none => ⟨.ok ⟨404, "not found"⟩, 0⟩

def send (script : Script) (request : Http.Request) : Http.Arrival × Script :=
  let arrival := script.arrivalOf request
  (arrival, { script with
    waiting := script.waiting ++ [(request.url, arrival.delay)]
    journal := { script.journal with requests := script.journal.requests ++ [request] } })

def elapse (script : Script) (ticks : Nat) : Script :=
  let due := (script.waiting.filter (·.2 ≤ ticks)).mergeSort fun a b => a.2 ≤ b.2
  { script with
    waiting := []
    journal := { script.journal with answered := script.journal.answered ++ due.map Prod.fst } }

def complete (script : Script) (prompt language : String) : Except Fault String × Script :=
  let asked := { script.journal with prompts := script.journal.prompts ++ [(prompt, language)] }
  match script.completions with
  | first :: rest => (first, { script with completions := rest, journal := asked })
  | [] => (script.fallback, { script with journal := asked })

def sleep (script : Script) (seconds : Float) : Script :=
  { script with journal := { script.journal with sleeps := script.journal.sleeps ++ [seconds] } }

/-- The answer to a call and the world after it. A stream is one chunk, and sleep is over at
once. -/
def answer (script : Script) : (call : Call) → call.Answer × Script
  | .send request => script.send request
  | .elapse ticks => ((), script.elapse ticks)
  | .complete prompt language => script.complete prompt language
  | .stream prompt language =>
      let (outcome, next) := script.complete prompt language
      (outcome.map fun chunk => [chunk], next)
  | .sleep seconds => ((), script.sleep seconds)

/-- Goes on until the program is done or has gone to sleep. -/
def advance {α : Type} (script : Script) : Program α → Program α × Script
  | .done a => (.done a, script)
  | .ask (.sleep seconds) next => (.ask (.sleep seconds) next, script.sleep seconds)
  | .ask call next =>
      let (reply, after) := script.answer call
      after.advance (next reply)

end Script

/-- A sleeping program wakes up. -/
def Program.wake {α : Type} : Program α → Program α
  | .ask (.sleep _) next => next ()
  | p => p

end Dialogue
