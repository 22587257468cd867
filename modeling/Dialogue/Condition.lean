import Dialogue.Value.Path
import Dialogue.Decimal.Reader
import Dialogue.Text.Case
/-!
Conditions on slots. A comparison value of `true` or `false` compares as a boolean; the order
operators compare numbers, the others texts.
-/
namespace Dialogue

open Dialogue.Text

namespace Value

/-- A number at the front of a text, after blanks; what follows it does not count. -/
def leadingNumber? (cs : List Char) : Option Float :=
  let (negative, body) := Decimal.cutSign (stripLeft cs)
  (Decimal.read? body).map fun r => Decimal.signed negative r.value

/-- Numbers stand for themselves, other values for the number at the front of their display. Null,
booleans and infinities are no number. -/
def number? : Value → Except Fault (Option Float)
  | .null | .bool _ => .ok none
  | .int n =>
      match Decimal.ofInt? n with
      | some x => .ok (some x)
      | none => .error .overflow
  | .float x => .ok (if x.isFinite then some x else none)
  | v => do return leadingNumber? (← v.display).toList

end Value

inductive Comparison where
  | equal
  | different
  | greater
  | less
  | atLeast
  | atMost
  | contains
  | lacks
  deriving DecidableEq, Repr

namespace Comparison

def name : Comparison → String
  | .equal => "=="
  | .different => "!="
  | .greater => ">"
  | .less => "<"
  | .atLeast => ">="
  | .atMost => "<="
  | .contains => "contains"
  | .lacks => "!contains"

def all : List Comparison :=
  [.equal, .different, .greater, .less, .atLeast, .atMost, .contains, .lacks]

def ofName? (s : String) : Option Comparison := all.find? (·.name = s)

theorem ofName?_name (c : Comparison) : ofName? c.name = some c := by
  cases c <;> decide

/-- How an order operator compares two numbers. -/
def onNumbers? : Comparison → Option (Float → Float → Bool)
  | .greater => some fun a b => b < a
  | .less => some fun a b => a < b
  | .atLeast => some fun a b => b ≤ a
  | .atMost => some fun a b => a ≤ b
  | _ => none

end Comparison

namespace Condition

def lowerText (s : String) : String := String.ofList (lower s.toList)

def isBooleanWord (s : String) : Bool := lowerText s = "true" || lowerText s = "false"

def saysTrue (s : String) : Bool := lowerText s = "true"

/-- Compares against the word `true` or `false`. -/
def compareBooleans (comparison : Comparison) (slot literal : Bool) : Bool :=
  match comparison with
  | .equal => slot == literal
  | .different => slot != literal
  | _ => false

def compareNumbers (test : Float → Float → Bool) (slot value : Value) : Except Fault Bool := do
  let left ← slot.number?
  let right ← value.number?
  match left, right with
  | some a, some b => return test a b
  | _, _ => return false

/-- Compares the text of a slot with the text of the comparison value. -/
def compareTexts (comparison : Comparison) (slot : Value) (literal : String) :
    Except Fault Bool := do
  match comparison with
  | .equal => return (← slot.toText) == literal
  | .different => return (← slot.toText) != literal
  | .contains =>
      if slot.isNull then return false
      else return occursIn literal.toList (← slot.toText).toList
  | .lacks =>
      if slot.isNull then return true
      else return !occursIn literal.toList (← slot.toText).toList
  | _ => return false

/-- An operator that is no text or an unknown text never holds. -/
def comparison? (operator : Value) : Option Comparison := operator.text?.bind Comparison.ofName?

/-- Whether `slot operator value` holds. -/
def holds (slot operator value : Value) : Except Fault Bool := do
  let literal ← value.toText
  if isBooleanWord literal then
    let word ← slot.toText
    match comparison? operator with
    | some comparison => return compareBooleans comparison (saysTrue word) (saysTrue literal)
    | none => return false
  else if !operator.hashable then throw (.clash (.unhashable operator.kind))
  else
    match comparison? operator with
    | none => return false
    | some comparison =>
        match comparison.onNumbers? with
        | some test => compareNumbers test slot value
        | none => compareTexts comparison slot literal

/-- An authored condition: a slot path, an operator and a value, which `valueType` may declare to
be a slot path itself. -/
def holdsIn (condition data : Value) : Except Fault Bool := do
  let path ← condition.field "slot"
  let slot ← data.lookupAt (path.getD (.text ""))
  let written := (← condition.field "value").getD .null
  let isPath := ((← condition.field "valueType").getD .null).isText "slot"
  let value ← if isPath then data.lookup (← written.toText) else pure written
  holds slot ((← condition.field "operator").getD (.text "==")) value

end Condition

end Dialogue
