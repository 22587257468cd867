import Dialogue.Fault
import Dialogue.Decimal.Reader
/-!
Integers as decimal texts of a bounded number of digits.
-/
namespace Dialogue.Numeral

open Dialogue.Text

/-- No text of an integer is read or written with more digits than this. -/
def maxDigits : Nat := 4300

def print (n : Int) : Except Fault String :=
  let digits := toString n.natAbs
  if maxDigits < digits.length then .error (.malformed .unprintableInteger)
  else .ok (if n < 0 then "-" ++ digits else digits)

/-- The number that a run of decimal digits writes. -/
def ofDigits (digits : List Char) : Except Fault Nat :=
  if maxDigits < digits.length then .error (.malformed (.longInteger digits.length))
  else .ok (decimalValue digits)

def ofSignedDigits (negative : Bool) (digits : List Char) : Except Fault Int := do
  let n ← ofDigits digits
  return if negative then -(n : Int) else n

/-- The integer that a whole text writes, blanks around it aside. -/
def parse (cs : List Char) : Except Fault Int :=
  let (negative, body) := Decimal.cutSign (bareNumber cs)
  match Decimal.joinDigits? false body with
  | some digits =>
      if digits.isEmpty || !digits.all isDecimal then
        .error (.malformed (.numeral (String.ofList cs)))
      else ofSignedDigits negative digits
  | none => .error (.malformed (.numeral (String.ofList cs)))

end Dialogue.Numeral
