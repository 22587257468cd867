import Dialogue.Json.Writer
/-!
The text of a value as it is shown to users and compared: nothing for null, `true` and `false`,
whole floats without a fraction, compact JSON for lists and objects.
-/
namespace Dialogue.Value

/-- A float without a fraction is written as an integer. -/
def floatText (x : Float) : Except Fault String :=
  match Decimal.integral? x with
  | some n => Numeral.print n
  | none => .ok (Decimal.plain.print x)

def toText : Value → Except Fault String
  | .null => .ok ""
  | .bool b => .ok (if b then "true" else "false")
  | .int n => Numeral.print n
  | .float x => floatText x
  | .text s => .ok s
  | v => Json.write Json.compact v

@[simp] theorem toText_text (s : String) : toText (.text s) = .ok s := rfl

@[simp] theorem toText_null : toText .null = .ok "" := rfl

end Dialogue.Value

/-!
Values of one kind that are taken for another: numbers and words for booleans, whole floats and
texts for integers.
-/
namespace Dialogue.Value

open Dialogue.Text

def lowerAscii (s : String) : String := s.map Char.toLower

/-- Booleans, zero and one, and the usual words in any case. -/
def asBool? : Value → Option Bool
  | .bool b => some b
  | .int n => if n = 0 then some false else if n = 1 then some true else none
  | .float x => if x == 0.0 then some false else if x == 1.0 then some true else none
  | .text s =>
      if ["0", "off", "f", "false", "n", "no"].contains (lowerAscii s) then some false
      else if ["1", "on", "t", "true", "y", "yes"].contains (lowerAscii s) then some true
      else none
  | _ => none

/-- A text without a fraction of zeros at its end. -/
def dropZeroFraction (cs : List Char) : List Char :=
  match cut? '.' cs with
  | some (whole, zeros) =>
      if !whole.isEmpty && !zeros.isEmpty && zeros.all (· = '0') then whole else cs
  | none => cs

/-- Whole numbers; floats count within 64 bits. -/
def asInt? : Value → Option Int
  | .int n => some n
  | .bool b => some (if b then 1 else 0)
  | .float x => (Decimal.integral? x).filter fun n =>
      -(Nat.pow 2 63 : Nat) < n && n < (Nat.pow 2 63 : Nat)
  | .text s =>
      let cs := dropZeroFraction (bareNumber s.toList)
      if cs.all (·.toNat < 128) then (Numeral.parse cs).toOption else none
  | _ => none

end Dialogue.Value

/-!
The plain display of values. Inside lists and objects texts stand in quotes.
-/
namespace Dialogue

open Dialogue.Text

namespace Value

mutual

def inner : Value → Except Fault String
  | .null => .ok "None"
  | .bool b => .ok (if b then "True" else "False")
  | .int n => Numeral.print n
  | .float x => .ok (Decimal.plain.print x)
  | .text s => .ok (displayQuoted s)
  | .list items => do return "[" ++ (← innerItems items) ++ "]"
  | .object fields => do return "\x7b" ++ (← innerFields fields) ++ "\x7d"

def innerItems : List Value → Except Fault String
  | [] => .ok ""
  | [v] => inner v
  | v :: vs => do return (← inner v) ++ ", " ++ (← innerItems vs)

def innerFields : List (String × Value) → Except Fault String
  | [] => .ok ""
  | [(k, v)] => do return displayQuoted k ++ ": " ++ (← inner v)
  | (k, v) :: rest => do
      return displayQuoted k ++ ": " ++ (← inner v) ++ ", " ++ (← innerFields rest)

end

/-- A text is displayed as it is, all else as inside a list. -/
def display : Value → Except Fault String
  | .text s => .ok s
  | v => inner v

end Value

end Dialogue
