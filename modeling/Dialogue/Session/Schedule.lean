import Dialogue.Script
import Dialogue.Session.Manager
/-!
A manager whose world answers from a script. Only sleep takes time: unless it is over at once, a
turn that sleeps stays pending until it is woken, or until it expires.
-/
namespace Dialogue

/-- With `wakeful` sleep is over at once. The outcomes are those of the turns that are over. -/
structure Schedule where
  house : House
  manager : Manager
  script : Script
  wakeful : Bool
  outcomes : List (Nat × Except Fault Turn.Outcome)

namespace Schedule

/-- Carries on with work until it is done or asleep. -/
def carryOn {α : Type} (wakeful : Bool) (script : Script) (work : Program α) :
    Program α × Script :=
  if wakeful then
    let (result, after) := work.run Script.answer script
    (.done result, after)
  else script.advance work

/-- Carries on with a pending turn and settles it once its work is done. -/
def drive (s : Schedule) (wakeful : Bool) (turn : Turn.Pending) : Schedule :=
  match carryOn wakeful s.script turn.work with
  | (.done result, script) =>
      let (outcome, manager) := s.manager.settle turn result
      { s with
        manager := manager
        script := script
        outcomes := s.outcomes ++ [(turn.id, outcome)] }
  | (work, script) => { s with manager := s.manager.setWork turn.id work, script := script }

/-- Wakes all turns that sleep, in the order in which they began. -/
def wakeAll (s : Schedule) : Schedule :=
  s.manager.pending.foldl
    (fun s turn => s.drive true { turn with work := turn.work.wake }) s

def expire (s : Schedule) (turn : Turn.Pending) : Schedule :=
  let (fault, manager) := s.manager.expire s.house turn
  { s with manager := manager, outcomes := s.outcomes ++ [(turn.id, .error fault)] }

/-- Lets time go by until a turn is over. Turns that began before it expire before it. -/
def await (s : Schedule) (id : Nat) : Schedule :=
  (s.manager.pending.filter (·.id ≤ id)).foldl expire s

def outcome? (s : Schedule) (id : Nat) : Option (Except Fault Turn.Outcome) :=
  (s.outcomes.find? (·.1 = id)).map Prod.snd

/-- Goes on from the beginning of a turn until it is over or asleep. Where turns are given no time
they expire before they do anything. -/
def start (s : Schedule) (begun : Except Fault Turn.Pending × Manager) :
    Except Fault Nat × Schedule :=
  let next := { s with manager := begun.2 }
  match begun.1 with
  | .ok turn =>
      (.ok turn.id, if s.house.timeout ≤ 0.0 then next.expire turn else next.drive s.wakeful turn)
  | .error fault => (.error fault, next)

def startTurn (s : Schedule) (session : String) (request : Turn.Request) :
    Except Fault Nat × Schedule :=
  s.start (s.manager.begin s.house session request)

/-- Lets time go by until a turn that has begun is over. -/
def finish (begun : Except Fault Nat × Schedule) : Except Fault Nat × Schedule :=
  match begun with
  | (.ok id, next) => (.ok id, next.await id)
  | (.error fault, next) => (.error fault, next)

/-- A whole turn. -/
def turn (s : Schedule) (session : String) (request : Turn.Request) :
    Except Fault Nat × Schedule :=
  finish (s.startTurn session request)

/-- A new session and the whole of its first turn. -/
def launch (s : Schedule) (conversation : Value) (scenario : String) (slots language : Value) :
    Except Fault Nat × Schedule :=
  finish (s.start (s.manager.launch s.house conversation scenario slots language))

end Schedule

end Dialogue
