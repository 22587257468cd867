import Dialogue.Mapping
/-!
The values that slots, authored node data and message bodies hold. Integers are unbounded and
differ from floats; the fields of an object keep their order.
-/
namespace Dialogue

inductive Value where
  | null
  | bool (b : Bool)
  | int (n : Int)
  | float (x : Float)
  | text (s : String)
  | list (items : List Value)
  | object (fields : List (String × Value))
  deriving Inhabited

abbrev Slots := Mapping Value

inductive Kind where
  | null | bool | int | float | text | list | object
  deriving DecidableEq, Repr

def Kind.label : Kind → String
  | .null => "NoneType"
  | .bool => "bool"
  | .int => "int"
  | .float => "float"
  | .text => "str"
  | .list => "list"
  | .object => "dict"

namespace Value

def kind : Value → Kind
  | .null => .null
  | .bool _ => .bool
  | .int _ => .int
  | .float _ => .float
  | .text _ => .text
  | .list _ => .list
  | .object _ => .object

/-- Null, false, zero and the empty text, list and object say no; all else says yes. -/
def truthy : Value → Bool
  | .null => false
  | .bool b => b
  | .int n => n ≠ 0
  | .float x => !(x == 0.0)
  | .text s => s ≠ ""
  | .list items => !items.isEmpty
  | .object fields => !fields.isEmpty

def text? : Value → Option String
  | .text s => some s
  | _ => none

def isText (v : Value) (s : String) : Bool := v.text? = some s

def isNull : Value → Bool
  | .null => true
  | _ => false

def ofText? : Option String → Value
  | some s => .text s
  | none => .null

/-- Values that may stand as a key: all but lists and objects. -/
def hashable : Value → Bool
  | .list _ | .object _ => false
  | _ => true

/-- The value, or `other` if it says no. -/
def orElse (v other : Value) : Value := if v.truthy then v else other

/-! The form in which values are stored and rendered: infinities and NaN become null. -/

mutual

def storable : Value → Value
  | .float x => if x.isFinite then .float x else .null
  | .list items => .list (storableItems items)
  | .object fields => .object (storableFields fields)
  | v => v

def storableItems : List Value → List Value
  | [] => []
  | v :: vs => storable v :: storableItems vs

def storableFields : List (String × Value) → List (String × Value)
  | [] => []
  | (k, v) :: rest => (k, storable v) :: storableFields rest

end

theorem truthy_text_iff {s : String} : (Value.text s).truthy = true ↔ s ≠ "" := by
  simp [truthy]

theorem isText_iff {v : Value} {s : String} : v.isText s = true ↔ v = .text s := by
  cases v <;> simp [isText, text?]

end Value

end Dialogue
