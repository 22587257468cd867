import Dialogue.Value.Basic
/-!
What authored files hold. Beside values there are points in time, and keys that are no texts. The
engine knows neither and takes the text that they are written by.
-/
namespace Dialogue

inductive Authored where
  | plain (v : Value)
  | time (text : String)
  | list (items : List Authored)
  | object (fields : List ((String × Bool) × Authored))

namespace Authored

/-- The text of a key, and whether the key is a text itself. -/
abbrev Key := String × Bool

abbrev Fields := List (Key × Authored)

def textKey (text : String) : Key := (text, true)

/-- The field under a text. -/
def get? (fields : Fields) (name : String) : Option Authored := fields.lookup (textKey name)

/-- A known key keeps its place and takes the new value. -/
def set : Fields → Key → Authored → Fields
  | [], key, v => [(key, v)]
  | (k, old) :: rest, key, v =>
      if k = key then (k, v) :: rest else (k, old) :: set rest key v

mutual

def ofValue : Value → Authored
  | .list items => .list (ofItems items)
  | .object fields => .object (ofFields fields)
  | v => .plain v

def ofItems : List Value → List Authored
  | [] => []
  | v :: vs => ofValue v :: ofItems vs

def ofFields : List (String × Value) → Fields
  | [] => []
  | (k, v) :: rest => (textKey k, ofValue v) :: ofFields rest

end

mutual

def toValue : Authored → Value
  | .plain v => v
  | .time text => .text text
  | .list items => .list (toItems items)
  | .object fields => .object (toFields fields)

def toItems : List Authored → List Value
  | [] => []
  | v :: vs => toValue v :: toItems vs

def toFields : List ((String × Bool) × Authored) → List (String × Value)
  | [] => []
  | ((k, _), v) :: rest => (k, toValue v) :: toFields rest

end

mutual

theorem toValue_ofValue : (v : Value) → (ofValue v).toValue = v
  | .null | .bool _ | .int _ | .float _ | .text _ => by simp [ofValue, toValue]
  | .list items => by simp [ofValue, toValue, toItems_ofItems items]
  | .object fields => by simp [ofValue, toValue, toFields_ofFields fields]

theorem toItems_ofItems : (vs : List Value) → toItems (ofItems vs) = vs
  | [] => by simp [ofItems, toItems]
  | v :: vs => by simp [ofItems, toItems, toValue_ofValue v, toItems_ofItems vs]

theorem toFields_ofFields : (fields : List (String × Value)) → toFields (ofFields fields) = fields
  | [] => by simp [ofFields, toFields]
  | (k, v) :: rest => by
      simp [ofFields, toFields, textKey, toValue_ofValue v, toFields_ofFields rest]

end

end Authored

end Dialogue
