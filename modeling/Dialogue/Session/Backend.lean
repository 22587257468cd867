import Dialogue.Fault
/-!
Which kind of store is used. The first request decides; until a reset all others get the same store.
-/
namespace Dialogue

inductive Backend where
  | memory
  | file
  deriving DecidableEq, Repr

/-- The kind that a configuration asks for; memory for one that is not known. -/
def Backend.ofConfig (config : Value) : Except Fault Backend := do
  let choice ← if config.truthy then config.field "store_backend" else pure none
  return if (choice.getD (.text "memory")).isText "file" then .file else .memory

/-- The store in use, if there is one, with its number among those made so far. -/
structure StoreChoice where
  current : Option (Backend × Nat)
  made : Nat

namespace StoreChoice

def none : StoreChoice := ⟨.none, 0⟩

/-- The store in use, or a new one of the kind asked for. -/
def get (choice : StoreChoice) (config : Value) :
    Except Fault ((Backend × Nat) × StoreChoice) := do
  match choice.current with
  | some store => return (store, choice)
  | .none =>
      let store := (← Backend.ofConfig config, choice.made)
      return (store, ⟨some store, choice.made + 1⟩)

def reset (choice : StoreChoice) : StoreChoice := { choice with current := .none }

end StoreChoice

end Dialogue
