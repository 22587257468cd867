import Dialogue.Text.Basic
import Dialogue.Text.Digit
import Dialogue.Decimal.Reader
/-!
What a scalar or collection stands for. Scalars without quotes and tag show it by their form.
-/
namespace Dialogue.Yaml

open Dialogue.Text

inductive Tag where
  | null
  | bool
  | int
  | float
  | timestamp
  | text
  | sequence
  | mapping
  | pairs
  | merge
  | value
  | unknown
  deriving DecidableEq, Repr

/-- What the names of the common tags start with. -/
def commonLead : String := "tag:yaml.org,2002:"

def Tag.ofName (name : String) : Tag :=
  match [("null", Tag.null), ("bool", .bool), ("int", .int), ("float", .float),
      ("timestamp", .timestamp), ("str", .text), ("seq", .sequence), ("map", .mapping),
      ("omap", .pairs), ("pairs", .pairs), ("merge", .merge), ("value", .value)].find?
        fun entry => commonLead ++ entry.1 = name with
  | some entry => entry.2
  | none => .unknown

def trueWords : List String := ["yes", "Yes", "YES", "true", "True", "TRUE", "on", "On", "ON"]

def falseWords : List String :=
  ["no", "No", "NO", "false", "False", "FALSE", "off", "Off", "OFF"]

def nullWords : List String := ["~", "null", "Null", "NULL"]

def infinityWords : List String := [".inf", ".Inf", ".INF"]

def nanWords : List String := [".nan", ".NaN", ".NAN"]

def isLowLine (c : Char) : Bool := c = '_'

def isDigitOrLow (c : Char) : Bool := isAsciiDigit c || isLowLine c

def isHexOrLow (c : Char) : Bool :=
  isAsciiDigit c || ('a' ≤ c.toLower && c.toLower ≤ 'f') || isLowLine c

/-- A digit, then digits and low lines. -/
def isCount (cs : List Char) : Bool := cs.head?.any isAsciiDigit && cs.all isDigitOrLow

/-- A count of sixtieths: one digit, or two below sixty. -/
def isSixtieths (cs : List Char) : Bool :=
  match cs with
  | [c] => isAsciiDigit c
  | [c, d] => '0' ≤ c && c ≤ '5' && isAsciiDigit d
  | _ => false

/-- A count, and counts of sixtieths after colons. -/
def isSixties (cs : List Char) : Bool :=
  match splitAll ':' cs with
  | count :: parts => isCount count && !parts.isEmpty && parts.all isSixtieths
  | [] => false

/-- Binary, octal after a zero, hexadecimal, decimal, or in sixties. -/
def isInteger (cs : List Char) : Bool :=
  let body := (Decimal.cutSign cs).2
  match body with
  | ['0'] => true
  | '0' :: 'b' :: rest => !rest.isEmpty && rest.all fun c => c = '0' || c = '1' || isLowLine c
  | '0' :: 'x' :: rest => !rest.isEmpty && rest.all isHexOrLow
  | '0' :: rest => rest.all fun c => ('0' ≤ c && c ≤ '7') || isLowLine c
  | _ => isCount body || isSixties body

/-- An exponent that has a sign, or nothing. -/
def isSignedExponent (cs : List Char) : Bool :=
  match cs with
  | [] => true
  | mark :: sign :: digits =>
      (mark = 'e' || mark = 'E') && (sign = '+' || sign = '-') && !digits.isEmpty &&
        digits.all isAsciiDigit
  | _ => false

/-- A float has a point, and its exponent a sign. Before a point without digits before it stands no
sign. -/
def isFloat (cs : List Char) : Bool :=
  let body := (Decimal.cutSign cs).2
  match cut? '.' body with
  | some ([], rest) =>
      let fraction := rest.takeWhile isDigitOrLow
      infinityWords.contains (String.ofList body) || nanWords.contains (String.ofList cs) ||
        (body.length = cs.length && isCount fraction &&
          isSignedExponent (rest.drop fraction.length))
  | some (whole, rest) =>
      (isCount whole && isSignedExponent (rest.dropWhile isDigitOrLow)) ||
        (isSixties whole && rest.all isDigitOrLow)
  | none => false

/-- The parts of a written point in time; `offset` is in minutes. -/
structure WrittenTime where
  year : Nat
  month : Nat
  day : Nat
  clock : Option (Nat × Nat × Nat)
  fraction : List Char
  offset : Option Int
  deriving DecidableEq, Repr

/-- A number of `least` to two digits, and the rest. -/
def cutShort? (least : Nat) (cs : List Char) : Option (Nat × List Char) :=
  let digits := (cs.take 2).takeWhile isAsciiDigit
  if least ≤ digits.length then some (decimalValue digits, cs.drop digits.length) else none

def cutMark? (mark : Char) (cs : List Char) : Option (List Char) :=
  if cs.head? = some mark then some (cs.drop 1) else none

/-- The rest of a point in time after its clock: a zone as an offset in minutes. -/
def zone? (cs : List Char) : Option (Option Int) :=
  match cs.dropWhile fun c => c = ' ' || c = '\t' with
  | [] => if cs.isEmpty then some none else none
  | ['Z'] => some (some 0)
  | sign :: rest => do
      guard (sign = '+' || sign = '-')
      let (hours, rest) ← cutShort? 1 rest
      let minutes ←
        if rest.isEmpty then some 0
        else do
          let (minutes, rest) ← cutShort? 2 (← cutMark? ':' rest)
          if rest.isEmpty then some minutes else none
      let offset : Int := 60 * hours + minutes
      some (some (if sign = '-' then -offset else offset))

/-- The clock of a point in time: hours, minutes, seconds, their fraction, and the zone. -/
def clock? (cs : List Char) : Option ((Nat × Nat × Nat) × List Char × Option Int) := do
  let (hours, rest) ← cutShort? 1 cs
  let (minutes, rest) ← cutShort? 2 (← cutMark? ':' rest)
  let (seconds, rest) ← cutShort? 2 (← cutMark? ':' rest)
  let (fraction, rest) := match rest with
    | '.' :: more => (more.takeWhile isAsciiDigit, more.dropWhile isAsciiDigit)
    | _ => ([], rest)
  some ((hours, minutes, seconds), fraction, ← zone? rest)

/-- A date, and a clock after it if there is one. -/
def time? (cs : List Char) : Option WrittenTime := do
  let year := cs.take 4
  guard (year.length = 4 && year.all isAsciiDigit)
  let (month, rest) ← cutShort? 1 (← cutMark? '-' (cs.drop 4))
  let (day, rest) ← cutShort? 1 (← cutMark? '-' rest)
  match rest with
  | [] => some ⟨decimalValue year, month, day, none, [], none⟩
  | c :: more => do
      let isBlank (c : Char) : Bool := c = ' ' || c = '\t'
      guard (c = 'T' || c = 't' || isBlank c)
      let (clock, fraction, offset) ← clock? (if isBlank c then more.dropWhile isBlank else more)
      some ⟨decimalValue year, month, day, some clock, fraction, offset⟩

/-- A date alone shows itself only if it is written in full. -/
def isTime (cs : List Char) : Bool :=
  match time? cs with
  | some time => time.clock.isSome || cs.length = 10
  | none => false

/-- A text without the line break at its end. -/
def dropFinalBreak (cs : List Char) : List Char :=
  if cs.getLast? = some '\n' then cs.dropLast else cs

/-- What an unquoted scalar stands for. -/
def Tag.implied (text : String) : Tag :=
  if text = "" then .null
  else
    let cs := dropFinalBreak text.toList
    let body := String.ofList cs
    if trueWords.contains body || falseWords.contains body then .bool
    else if isFloat cs then .float
    else if isInteger cs then .int
    else if body = "<<" then .merge
    else if nullWords.contains body then .null
    else if isTime cs then .timestamp
    else if body = "=" then .value
    else .text

end Dialogue.Yaml
