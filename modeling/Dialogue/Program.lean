import Dialogue.Http.Response
/-!
Work that depends on the world around it, as a tree: each call to the world branches over its
possible answers. A turn that waits for an answer is such a tree, so it can be kept, resumed and
dropped.
-/
namespace Dialogue

/-- A request is answered with what becomes of it and when; `elapse` lets that many ticks go by and
drops the requests that are still out after them. -/
inductive Call where
  | send (request : Http.Request)
  | elapse (ticks : Nat)
  | complete (prompt language : String)
  | stream (prompt language : String)
  | sleep (seconds : Float)

/-- What the world answers to a call. -/
def Call.Answer : Call → Type
  | .send _ => Http.Arrival
  | .elapse _ => Unit
  | .complete _ _ => Except Fault String
  | .stream _ _ => Except Fault (List String)
  | .sleep _ => Unit

inductive Program (α : Type) where
  | done (a : α)
  | ask (call : Call) (next : call.Answer → Program α)

namespace Program

variable {α β γ : Type}

def bind : Program α → (α → Program β) → Program β
  | .done a, f => f a
  | .ask call next, f => .ask call fun answer => (next answer).bind f

instance : Monad Program where
  pure := .done
  bind := bind

/-- A single call. -/
def call (c : Call) : Program c.Answer := .ask c .done

theorem bind_done (p : Program α) : p.bind .done = p := by
  induction p with
  | done a => rfl
  | ask call next ih => simp only [bind]; congr; funext answer; exact ih answer

theorem bind_assoc (p : Program α) (f : α → Program β) (g : β → Program γ) :
    (p.bind f).bind g = p.bind fun a => (f a).bind g := by
  induction p with
  | done a => rfl
  | ask call next ih => simp only [bind]; congr; funext answer; exact ih answer

instance : LawfulMonad Program := LawfulMonad.mk'
  Program bind_done (fun _ _ => rfl) bind_assoc

/-- Whether nothing is left to be asked. -/
def result? : Program α → Option α
  | .done a => some a
  | .ask _ _ => none

/-- The outcome in a world that answers every call the same way whenever it is made. -/
def outcome (world : (c : Call) → c.Answer) : Program α → α
  | .done a => a
  | .ask call next => (next (world call)).outcome world

/-- The outcome in a world that changes with every call, and the world after it. -/
def run {σ : Type} (world : σ → (c : Call) → c.Answer × σ) (s : σ) : Program α → α × σ
  | .done a => (a, s)
  | .ask call next =>
      let (answer, t) := world s call
      (next answer).run world t

theorem outcome_bind (world : (c : Call) → c.Answer) (p : Program α) (f : α → Program β) :
    (p.bind f).outcome world = (f (p.outcome world)).outcome world := by
  induction p with
  | done a => rfl
  | ask call next ih => exact ih (world call)

theorem run_bind {σ : Type} (world : σ → (c : Call) → c.Answer × σ) (s : σ) (p : Program α)
    (f : α → Program β) :
    (p.bind f).run world s = (f (p.run world s).1).run world (p.run world s).2 := by
  induction p generalizing s with
  | done a => rfl
  | ask call next ih => exact ih _ _

end Program

/-- Work that may end in a fault. -/
abbrev Attempt := ExceptT Fault Program

namespace Attempt

/-- Calls the world, which itself may answer with a fault. -/
def call (c : Call) : Attempt c.Answer := ExceptT.lift (Program.call c)

/-- Goes on with a result or stops with its fault. -/
def of {α : Type} (r : Except Fault α) : Attempt α := ExceptT.mk (.done r)

end Attempt

end Dialogue
