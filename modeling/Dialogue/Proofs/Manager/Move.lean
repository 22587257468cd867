import Dialogue.Proofs.Manager.Ending
/-!
What can happen to a manager: callers ask it for things, the world answers the turns that wait for
it, turns end and time goes on, in any order.
-/
namespace Dialogue

open Turn

/-- One thing that happens. Turns are named by their ids. -/
inductive Move where
  | create (conversation scenario slots language : Value)
  | launch (conversation : Value) (scenario : String) (slots language : Value)
  | begin (id : String) (request : Request)
  | answer (turn : Nat) (world : (call : Call) → call.Answer)
  | settle (turn : Nat)
  | expire (turn : Nat)
  | cancel (id : String)
  | select (id : String) (node value : Value)
  | delete (id : String)
  | drain (id : String)
  | wait (now : Moment)

namespace Move

def Selects (id : String) : Move → Prop
  | .select other _ _ => other = id
  | _ => False

def Cancels (id : String) : Move → Prop
  | .cancel other => other = id
  | _ => False

def Deletes (id : String) : Move → Prop
  | .delete other => other = id
  | _ => False

/-- The move ends a turn if its time has come. -/
def Ends (turn : Nat) : Move → Prop
  | .settle other | .expire other => other = turn
  | _ => False

end Move

namespace Turn.Pending

/-- The turn once the world has answered the call that it waits for. -/
def answered (turn : Pending) (world : (call : Call) → call.Answer) : Pending :=
  match turn.work with
  | .ask call next => { turn with work := next (world call) }
  | .done _ => turn

/-- What a move makes of a turn that it does not end. -/
def step (turn : Pending) : Move → Pending
  | .answer other world => if other = turn.id then turn.answered world else turn
  | _ => turn

def after (turn : Pending) (moves : List Move) : Pending := moves.foldl step turn

theorem step_eq (turn : Pending) (move : Move) :
    ∃ work, turn.step move = { turn with work := work } := by
  unfold step answered
  split
  · split
    · split
      · exact ⟨_, rfl⟩
      · exact ⟨_, rfl⟩
    · exact ⟨_, rfl⟩
  · exact ⟨_, rfl⟩

@[simp] theorem id_step (turn : Pending) (move : Move) : (turn.step move).id = turn.id := by
  obtain ⟨work, h⟩ := step_eq turn move
  rw [h]

@[simp] theorem marked_step (turn : Pending) (move : Move) :
    (turn.step move).marked = turn.marked := by
  obtain ⟨work, h⟩ := step_eq turn move
  rw [h]

@[simp] theorem lock_step (turn : Pending) (move : Move) : (turn.step move).lock = turn.lock := by
  obtain ⟨work, h⟩ := step_eq turn move
  rw [h]

@[simp] theorem input_step (turn : Pending) (move : Move) :
    (turn.step move).input = turn.input := by
  obtain ⟨work, h⟩ := step_eq turn move
  rw [h]

@[simp] theorem id_after (turn : Pending) (moves : List Move) : (turn.after moves).id = turn.id := by
  induction moves generalizing turn with
  | nil => rfl
  | cons move rest ih => exact (ih (turn.step move)).trans (turn.id_step move)

@[simp] theorem marked_after (turn : Pending) (moves : List Move) :
    (turn.after moves).marked = turn.marked := by
  induction moves generalizing turn with
  | nil => rfl
  | cons move rest ih => exact (ih (turn.step move)).trans (turn.marked_step move)

@[simp] theorem input_after (turn : Pending) (moves : List Move) :
    (turn.after moves).input = turn.input := by
  induction moves generalizing turn with
  | nil => rfl
  | cons move rest ih => exact (ih (turn.step move)).trans (turn.input_step move)

/-- Whether nothing is left to do in the turn but to end it. -/
def isDone (turn : Pending) : Bool := turn.work.result?.isSome

theorem exists_of_isDone {turn : Pending} (h : turn.isDone = true) :
    ∃ result, turn.work = .done result := by
  unfold isDone at h
  cases hwork : turn.work with
  | done result => exact ⟨result, rfl⟩
  | ask call next =>
      rw [hwork] at h
      cases h

end Turn.Pending

namespace Manager

variable {m : Manager}

def turn? (m : Manager) (turn : Nat) : Option Pending := m.pending.find? (·.id = turn)

theorem turn?_mem {id : Nat} {turn : Pending} (h : m.turn? id = some turn) :
    turn ∈ m.pending ∧ turn.id = id :=
  ⟨List.mem_of_find?_eq_some h, by simpa using List.find?_some h⟩

/-- What a move makes of a manager. A request that fails changes nothing but what it says. -/
def step (house : House) (m : Manager) : Move → Manager
  | .create conversation scenario slots language =>
      (m.create conversation scenario slots language).2
  | .launch conversation scenario slots language =>
      (m.launch house conversation scenario slots language).2
  | .begin id request => (begin house m id request).2
  | .answer id world => (m.turn? id).elim m fun turn => m.resume turn world
  | .settle id => (m.turn? id).elim m fun turn =>
      match turn.work with
      | .done result => (m.settle turn result).2
      | .ask _ _ => m
  | .expire id => (m.turn? id).elim m fun turn => (m.expire house turn).2
  | .cancel id => match m.cancel id with
      | .ok (_, next) => next
      | .error _ => m
  | .select id node value => match m.select id node value with
      | .ok (_, next) => next
      | .error _ => m
  | .delete id => (m.delete id).2
  | .drain id => { m with sink := (m.sink.drain id).2 }
  | .wait now => { m with now := now }

def after (house : House) (m : Manager) (moves : List Move) : Manager :=
  moves.foldl (step house) m

theorem after_append (house : House) (m : Manager) (earlier later : List Move) :
    m.after house (earlier ++ later) = (m.after house earlier).after house later :=
  List.foldl_append

/-- A manager that some course of moves leads to from one without sessions. -/
def Reachable (house : House) (m : Manager) : Prop :=
  ∃ sink now moves, m = (empty sink now).after house moves

/-- A turn of the session has begun and is not over. -/
def InFlight (m : Manager) (id : String) : Prop := ∃ turn ∈ m.pending, turn.marked.id = id

theorem not_inFlight_of_isEmpty (h : m.pending.isEmpty = true) (id : String) :
    ¬ m.InFlight id := by
  rintro ⟨turn, ht, -⟩
  rw [List.isEmpty_iff.1 h] at ht
  cases ht

/-- Whether there is a session of the id and `p` holds of it. -/
def shows (m : Manager) (id : String) (p : Session → Bool) : Bool :=
  match m.session? id with
  | .ok (some s) => p s
  | _ => false

theorem exists_of_shows {id : String} {p : Session → Bool} (h : m.shows id p = true) :
    ∃ s, m.session? id = .ok (some s) ∧ p s = true := by
  unfold shows at h
  split at h
  · exact ⟨_, ‹_›, h⟩
  · cases h

/-- Whether a turn begins and `p` holds of it. -/
def accepts (house : House) (m : Manager) (id : String) (request : Request) (p : Pending → Bool) :
    Bool :=
  match begin house m id request with
  | (.ok turn, _) => p turn
  | _ => false

theorem exists_of_accepts {house : House} {id : String} {request : Request} {p : Pending → Bool}
    (h : accepts house m id request p = true) :
    ∃ turn next, begin house m id request = (.ok turn, next) ∧ p turn = true := by
  unfold accepts at h
  split at h
  · exact ⟨_, _, ‹_›, h⟩
  · cases h

end Manager

/-! A house with one scenario, which waits for a completion and then ends. -/
namespace Sample

def scenario : Scenario where
  id := "chat"
  name := "Chat"
  description := ""
  nodes := [⟨"reply", "llm", [("prompt", .text "Hello")]⟩]
  edges := []
  start := some "reply"

def house : House where
  registry := ⟨[("chat", scenario)], []⟩
  maxSteps := 10
  maxRuns := 3
  timeout := 5.0
  language := "en"
  apiBase := ""
  today := ⟨2024, 1, 1⟩

def start : Manager := .empty (.log []) ⟨⟨2024, 1, 1⟩, 0, none, by decide, by decide⟩

/-- A world in which completions succeed and requests do not. -/
def world : (call : Call) → call.Answer
  | .complete _ _ => .ok "Hi"
  | .stream _ _ => .ok ["Hi"]
  | .send _ => ⟨.error (.malformed .unprintableInteger), 0⟩
  | .elapse _ | .sleep _ => ()

def launch : Move := .launch (.text "c") "chat" .null .null

end Sample

end Dialogue
