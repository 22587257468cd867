import Dialogue.Text.Digit
import Dialogue.Decimal.Layout
import Dialogue.Decimal.Reader
import Dialogue.Value.Basic
/-!
Dates of the Gregorian calendar from year 1 to 9999, and their written form `YYYY-MM-DD`.
-/
namespace Dialogue

open Dialogue.Text

structure Date where
  year : Nat
  month : Nat
  day : Nat
  deriving DecidableEq, Repr

namespace Date

def isLeap (year : Nat) : Bool := year % 4 = 0 && (year % 100 ≠ 0 || year % 400 = 0)

def daysIn (year month : Nat) : Nat :=
  if month = 2 then (if isLeap year then 29 else 28)
  else if month = 4 || month = 6 || month = 9 || month = 11 then 30
  else 31

def exists? (d : Date) : Bool :=
  1 ≤ d.year && d.year ≤ 9999 && 1 ≤ d.month && d.month ≤ 12 && 1 ≤ d.day &&
    d.day ≤ daysIn d.year d.month

/-- `a` is the same day as `b` or comes before it. -/
def upTo (a b : Date) : Bool :=
  a.year < b.year || (a.year = b.year &&
    (a.month < b.month || (a.month = b.month && a.day ≤ b.day)))

def ofNumbers? (year month day : Nat) : Option Date :=
  if (Date.mk year month day).exists? then some ⟨year, month, day⟩ else none

/-- The existing date that ten characters of the form `YYYY-MM-DD` name. -/
def parse? : List Char → Option Date
  | [y1, y2, y3, y4, '-', m1, m2, '-', d1, d2] =>
      if [y1, y2, y3, y4, m1, m2, d1, d2].all isAsciiDigit then
        ofNumbers? (decimalValue [y1, y2, y3, y4]) (decimalValue [m1, m2]) (decimalValue [d1, d2])
      else none
  | _ => none

theorem exists?_of_ofNumbers? {year month day : Nat} {d : Date}
    (h : ofNumbers? year month day = some d) : d.exists? = true := by
  unfold ofNumbers? at h
  split at h
  · cases h
    assumption
  · simp at h

theorem exists?_of_parse? {cs : List Char} {d : Date} (h : parse? cs = some d) :
    d.exists? = true := by
  unfold parse? at h
  split at h
  · split at h
    · exact exists?_of_ofNumbers? h
    · simp at h
  · simp at h

theorem upTo_total (a b : Date) : a.upTo b = true ∨ b.upTo a = true := by
  simp only [upTo, Bool.or_eq_true, Bool.and_eq_true, decide_eq_true_eq]
  omega

theorem eq_of_upTo {a b : Date} (h : a.upTo b = true) (h' : b.upTo a = true) : a = b := by
  simp only [upTo, Bool.or_eq_true, Bool.and_eq_true, decide_eq_true_eq] at h h'
  cases a
  cases b
  simp only [mk.injEq] at *
  omega

end Date

end Dialogue

/-!
Points in time: a date, the time of day, and how far the clock is ahead of Greenwich. A moment
without that distance is local. Moments are read from ISO 8601 texts and from seconds since 1970.
-/
namespace Dialogue

open Dialogue.Text

def microsPerSecond : Nat := 1000000

def microsPerDay : Nat := 86400 * microsPerSecond

structure Moment where
  date : Date
  micros : Nat
  offset : Option Int
  isDate : date.exists? = true
  inDay : micros < microsPerDay

namespace Date

/-- The days from the start of the calendar to the end of the day. -/
def ordinal (d : Date) : Nat :=
  let years := d.year - 1
  365 * years + years / 4 - years / 100 + years / 400 +
    (List.range (d.month - 1)).foldl (fun days m => days + daysIn d.year (m + 1)) 0 + d.day

def daysInYear (year : Nat) : Nat := if isLeap year then 366 else 365

/-- The month and day that `days` days of a year lead to. -/
def inYear (year : Nat) : List Nat → Nat → Option Date
  | [], _ => none
  | month :: months, days =>
      if days ≤ daysIn year month then ofNumbers? year month days
      else inYear year months (days - daysIn year month)

/-- The date that `days` days from the start of `year` lead to, `years` further years at most. -/
def afterYear : (years year days : Nat) → Option Date
  | 0, _, _ => none
  | years + 1, year, days =>
      if days ≤ daysInYear year then inYear year (List.range' 1 12) days
      else afterYear years (year + 1) (days - daysInYear year)

def ofOrdinal? (days : Nat) : Option Date := if days = 0 then none else afterYear 9999 1 days

end Date

namespace Moment

def epoch : Nat := Date.ordinal ⟨1970, 1, 1⟩

def ofParts? (date : Date) (micros : Nat) (offset : Option Int) : Option Moment :=
  if h : date.exists? = true ∧ micros < microsPerDay then some ⟨date, micros, offset, h.1, h.2⟩
  else none

/-- The microseconds since the start of the calendar, at Greenwich. -/
def instant (m : Moment) : Int :=
  m.date.ordinal * microsPerDay + m.micros - m.offset.getD 0 * 60 * microsPerSecond

/-- Whether the distance to Greenwich is known. -/
def isZoned (m : Moment) : Bool := m.offset.isSome

def ofInstant? (micros : Int) (offset : Option Int) : Option Moment := do
  if micros < 0 then failure
  ofParts? (← Date.ofOrdinal? (micros.toNat / microsPerDay)) (micros.toNat % microsPerDay) offset

/-- One second later; at the end of the calendar time stands still. -/
def next (m : Moment) : Moment :=
  let shown := m.instant + m.offset.getD 0 * 60 * microsPerSecond
  (ofInstant? (shown + microsPerSecond) m.offset).getD m

/-- Large numbers count milliseconds. -/
def ofMicros? (micros : Int) : Option Moment :=
  let scaled := if micros.natAbs ≤ 20000000000 * microsPerSecond then micros else micros / 1000
  ofInstant? (scaled + epoch * microsPerDay) (some 0)

def twoDigits? : List Char → Option (Nat × List Char)
  | a :: b :: rest =>
      if isAsciiDigit a && isAsciiDigit b then some (decimalValue [a, b], rest) else none
  | _ => none

/-- Distances to Greenwich: `Z`, or a sign, hours and minutes. The sign may be a true minus. -/
def offset? : List Char → Option (Option Int)
  | [] => some none
  | ['Z'] | ['z'] => some (some 0)
  | sign :: rest => do
      let (hours, after) ← twoDigits? rest
      let (minutes, last) ← match after with
        | ':' :: more => twoDigits? more
        | more => twoDigits? more
      if !last.isEmpty || 24 ≤ hours || 60 ≤ minutes then failure
      let distance : Int := hours * 60 + minutes
      if sign = '+' then return some distance
      else if sign = '-' || sign = '−' then return some (-distance)
      else failure

/-- A fraction of a second in microseconds; further digits are dropped. -/
def fraction (digits : List Char) : Nat :=
  decimalValue ((digits ++ List.replicate 6 '0').take 6)

/-- Seconds and their fraction, if there are any. -/
def seconds? (cs : List Char) : Option (Nat × List Char) :=
  match cs with
  | ':' :: rest => do
      let (seconds, after) ← twoDigits? rest
      if 60 ≤ seconds then failure
      match after with
      | mark :: more =>
          if mark = '.' || mark = ',' then
            let digits := more.takeWhile isAsciiDigit
            if digits.isEmpty then failure
            return (seconds * microsPerSecond + fraction digits, more.drop digits.length)
          else return (seconds * microsPerSecond, after)
      | [] => return (seconds * microsPerSecond, [])
  | _ => some (0, cs)

def time? (cs : List Char) : Option (Nat × Option Int) := do
  let (hours, afterHours) ← twoDigits? cs
  let (minutes, afterMinutes) ← match afterHours with
    | ':' :: rest => twoDigits? rest
    | _ => none
  if 24 ≤ hours || 60 ≤ minutes then failure
  let (micros, rest) ← seconds? afterMinutes
  return ((hours * 3600 + minutes * 60) * microsPerSecond + micros, ← offset? rest)

def isMark (c : Char) : Bool := c = 'T' || c = 't' || c = ' ' || c = '_'

def parseDate? (cs : List Char) : Option Moment := do
  let date ← Date.parse? (cs.take 10)
  match cs.drop 10 with
  | [] => ofParts? date 0 none
  | mark :: rest => do
      if !isMark mark then failure
      let (micros, offset) ← time? rest
      ofParts? date micros offset

/-- A float of seconds, in whole microseconds. -/
def ofSeconds? (seconds : Float) : Option Moment := do
  let micros ← Decimal.integral? (seconds * 1000000.0).round
  ofMicros? micros

/-- Plain digits, with a sign or a fraction. -/
def isPlainNumber (cs : List Char) : Bool :=
  let (_, digits) := Decimal.cutSign cs
  let fraction := digits.dropWhile isAsciiDigit
  digits.any isAsciiDigit &&
    (fraction.isEmpty || (fraction.head? = some '.' && fraction.tail.all isAsciiDigit))

def parse? (cs : List Char) : Option Moment :=
  (parseDate? cs).or (if isPlainNumber cs then (Decimal.parse? cs).bind ofSeconds? else none)

def read? : Value → Option Moment
  | .text s => parse? s.toList
  | .int n => ofMicros? (n * microsPerSecond)
  | .float x => ofSeconds? x
  | _ => none

/-- The last `width` decimal digits of a number. -/
def digitsOf : (width n : Nat) → List Char
  | 0, _ => []
  | width + 1, n => digitsOf width (n / 10) ++ [Char.ofNat (48 + n % 10)]

def printDistance : Option Int → List Char
  | none => []
  | some distance =>
      (if distance < 0 then '-' else '+') :: (digitsOf 2 (distance.natAbs / 60) ++
        ':' :: digitsOf 2 (distance.natAbs % 60))

/-- The clock at Greenwich is written as `Z`. -/
def printOffset (offset : Option Int) : List Char :=
  if offset = some 0 then ['Z'] else printDistance offset

/-- The time of day; a fraction of zero is left out. -/
def printTime (micros : Nat) : List Char :=
  let seconds := micros / microsPerSecond
  let fraction := micros % microsPerSecond
  digitsOf 2 (seconds / 3600) ++ ':' :: (digitsOf 2 (seconds / 60 % 60) ++
    ':' :: (digitsOf 2 (seconds % 60) ++ if fraction = 0 then [] else '.' :: digitsOf 6 fraction))

def printDate (d : Date) : List Char :=
  digitsOf 4 d.year ++ '-' :: (digitsOf 2 d.month ++ '-' :: digitsOf 2 d.day)

def printLocal (m : Moment) : List Char := printDate m.date ++ 'T' :: printTime m.micros

def print (m : Moment) : String := String.ofList (m.printLocal ++ printOffset m.offset)

/-- The text in which every known distance to Greenwich is a number. -/
def printNumeric (m : Moment) : String := String.ofList (m.printLocal ++ printDistance m.offset)

end Moment

end Dialogue
