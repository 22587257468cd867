import Dialogue.Decimal.Nearest
import Dialogue.Text.Blank
import Dialogue.Text.Digit
import Dialogue.Text.Basic
/-!
Reading decimal notation: digits, a point, an exponent. Digits of every script count.
-/
namespace Dialogue.Decimal

open Dialogue.Text

/-- The nearest float to an integer, `none` if it is too large. -/
def ofInt? (n : Int) : Option Float :=
  if n.natAbs < Nat.pow 2 1024 - Nat.pow 2 970 then some (signed (n < 0) (toFloat n.natAbs 0)) else none

/-- A sign, and the rest. -/
def cutSign : List Char → Bool × List Char
  | '-' :: cs => (true, cs)
  | '+' :: cs => (false, cs)
  | cs => (false, cs)

/-- An exponent mark with at least one digit, and the rest. -/
def cutExponent (isDigit : Char → Bool) (cs : List Char) : Int × List Char :=
  match cs with
  | c :: more =>
      if c = 'e' || c = 'E' then
        let (negative, after) := cutSign more
        let digits := after.takeWhile isDigit
        if digits.isEmpty then (0, cs)
        else
          let n : Int := decimalValue digits
          (if negative then -n else n, after.dropWhile isDigit)
      else (0, cs)
  | [] => (0, cs)

/-- A number read from the front of a text. -/
structure Reading where
  whole : List Char
  fraction : List Char
  exponent : Int
  rest : List Char

/-- The digits before and after the point as one number, moved by the exponent. -/
def Reading.value (r : Reading) : Float :=
  toFloat (decimalValue (r.whole ++ r.fraction)) (r.exponent - r.fraction.length)

/-- The longest unsigned number at the front: digits with an optional point and fraction, or a
point and a fraction, then an optional exponent. -/
def read? (cs : List Char) : Option Reading :=
  let whole := cs.takeWhile isDecimal
  let afterWhole := cs.dropWhile isDecimal
  let (fraction, afterFraction) := match afterWhole with
    | '.' :: more =>
        let fraction := more.takeWhile isDecimal
        if whole.isEmpty && fraction.isEmpty then ([], afterWhole)
        else (fraction, more.dropWhile isDecimal)
    | _ => ([], afterWhole)
  if whole.isEmpty && fraction.isEmpty then none
  else
    let (exponent, rest) := cutExponent isDecimal afterFraction
    some ⟨whole, fraction, exponent, rest⟩

/-- Drops single low lines between two digits; any other low line is refused. -/
def joinDigits? (afterDigit : Bool) : List Char → Option (List Char)
  | [] => some []
  | '_' :: cs =>
      if afterDigit && (cs.head?.map isDecimal).getD false then joinDigits? false cs else none
  | c :: cs => (joinDigits? (isDecimal c) cs).map (c :: ·)

def lowAscii (cs : List Char) : String := String.ofList (cs.map Char.toLower)

/-- The float that a whole text writes, blanks around it aside. -/
def parse? (cs : List Char) : Option Float :=
  let (negative, body) := cutSign (bareNumber cs)
  if ["inf", "infinity"].contains (lowAscii body) then some (signed negative (1.0 / 0.0))
  else if lowAscii body = "nan" then some (0.0 / 0.0)
  else do
    let r ← read? (← joinDigits? false body)
    guard r.rest.isEmpty
    some (signed negative r.value)

end Dialogue.Decimal
