import Dialogue.Json.Reader
import Dialogue.Condition
/-!
The value that a text assigned to a slot stands for: a JSON list or object, a boolean, a number, or
the text itself.
-/
namespace Dialogue.Slot

open Dialogue.Text

/-- Digits of a whole number: a lone zero, or a run that does not start with zero. -/
def wholeRun (cs : List Char) : List Char :=
  match cs with
  | '0' :: _ => ['0']
  | c :: rest => if '1' ≤ c && c ≤ '9' then c :: rest.takeWhile isDecimal else []
  | [] => []

def dropMinus (cs : List Char) : List Char :=
  match cs with
  | '-' :: rest => rest
  | _ => cs

/-- Numbers with leading zeros are no integers here. -/
def isInteger (cs : List Char) : Bool :=
  let body := dropMinus cs
  !(wholeRun body).isEmpty && (body.drop (wholeRun body).length).isEmpty

/-- An exponent mark, a sign or none, and digits up to the end. -/
def isExponent (cs : List Char) : Bool :=
  match cs with
  | mark :: rest =>
      let digits := (Decimal.cutSign rest).2
      (mark = 'e' || mark = 'E') && !digits.isEmpty && digits.all isDecimal
  | [] => false

/-- A number with a fraction or an exponent; the digits before the point may be missing. -/
def isFloat (cs : List Char) : Bool :=
  let body := dropMinus cs
  let whole := wholeRun body
  match body.drop whole.length with
  | '.' :: rest =>
      let fraction := rest.takeWhile isDecimal
      let after := rest.drop fraction.length
      !fraction.isEmpty && (after.isEmpty || isExponent after)
  | after => !whole.isEmpty && isExponent after

def isEnclosed (first last : Char) (cs : List Char) : Bool :=
  cs.head? = some first && cs.getLast? = some last

def looksLikeJson (cs : List Char) : Bool :=
  isEnclosed '\x7b' '\x7d' cs || isEnclosed '[' ']' cs

/-- The value that a text stands for. JSON that cannot be read leaves the text as it is. -/
def coerceText (s : String) : Except Fault Value :=
  let cs := strip s.toList
  if looksLikeJson cs then .ok ((Json.read (String.ofList cs)).toOption.getD (.text s))
  else if Condition.isBooleanWord (String.ofList cs) then
    .ok (.bool (Condition.saysTrue (String.ofList cs)))
  else if isInteger cs then do return .int (← Numeral.parse cs)
  else if isFloat cs then .ok ((Decimal.parse? cs).elim (.text s) .float)
  else .ok (.text s)

/-- Values that are no text stand for themselves. -/
def coerce (v : Value) : Except Fault Value :=
  match v with
  | .text s => coerceText s
  | _ => .ok v

/-- A delay in milliseconds, `none` for what is no duration. -/
def duration? (v : Value) : Except Fault (Option Float) :=
  match v with
  | .text s =>
      let cs := strip s.toList
      let read := if isInteger cs || isFloat cs then Decimal.parse? cs else none
      .ok (read.filter fun x => !(x < 0.0) && !x.isNaN)
  | .int n =>
      if n < 0 then .ok none
      else match Decimal.ofInt? n with
        | some x => .ok (some x)
        | none => .error .overflow
  | .float x => .ok (if x < 0.0 || x.isNaN then none else some x)
  | _ => .ok none

end Dialogue.Slot
