import Dialogue.Value.Convert
import Dialogue.Regex.Reader
import Dialogue.Moment
import Dialogue.Notice
/-!
Checking an answer against an authored rule: an email address, a phone number, a pattern, a range of
dates, or a date before or after today.
-/
namespace Dialogue

open Dialogue.Text

inductive Verdict where
  | accepted
  | rejected (message : Value)

namespace Verdict

def isAccepted : Verdict → Bool
  | .accepted => true
  | .rejected _ => false

def message : Verdict → Value
  | .accepted => .text ""
  | .rejected message => message

end Verdict

namespace Rule

/-- A text, or that text with a line break after it. -/
def endLine (cs : List Char) : List Char :=
  match cs.reverse with
  | '\n' :: front => front.reverse
  | _ => cs

def isAddressChar (c : Char) : Bool := !isBlank c && c ≠ '@'

/-- A dot with a character on both sides. -/
def hasInnerDot : List Char → Bool
  | [] => false
  | _ :: cs => (cs.dropLast).contains '.'

/-- Two parts around a single `@`, without blanks, the second with a dot inside. A line break may
follow. -/
def isEmail (cs : List Char) : Bool :=
  match cut? '@' (endLine cs) with
  | some (name, host) =>
      !name.isEmpty && name.all isAddressChar && host.all isAddressChar && hasInnerDot host
  | none => false

def digitsOf (least most : Nat) (cs : List Char) : Bool :=
  cs.all isDecimal && least ≤ cs.length && cs.length ≤ most

/-- Two or three, three or four, and four digits between hyphens. A line break may follow. -/
def isPhone (cs : List Char) : Bool :=
  match splitAll '-' (endLine cs) with
  | [a, b, c] => digitsOf 2 3 a && digitsOf 3 4 b && digitsOf 4 4 c
  | _ => false

/-- What a rule needs besides the answer: the language of its notices and the day it is. -/
structure Setting where
  language : String
  today : Date

/-- The authored message of a rule wins over the notice. -/
def reject (setting : Setting) (override : Value) (notice : Notice) : Verdict :=
  .rejected (if override.truthy then override else .text (notice.text setting.language))

def rejectWith (setting : Setting) (notice : Notice) (args : Mapping Value) :
    Except Fault Verdict := do
  return .rejected (.text (← notice.render setting.language args))

/-- The day at the front of an authored date. -/
def authoredDate (v : Value) : Except Fault (Option Date) := do
  return Date.parse? ((← v.display).toList.take 10)

def checkPattern (setting : Setting) (override pattern : Value) (answer : List Char) :
    Except Fault Verdict :=
  match pattern with
  | .text s =>
      match Regex.Pattern.read s.toList with
      | .ok p =>
          .ok (if p.occursIn answer then .accepted else reject setting override .format)
      | .error .malformed => .ok (reject setting .null .badPattern)
      | .error .overflow => .error .overflow
      | .error (.longNumber digits) => .error (.malformed (.longInteger digits))
      | .error .mixedAlphabets => .error (.malformed .pattern)
  | _ => .error (.clash .notAPattern)

def checkRange (setting : Setting) (override first last : Value) (answer : List Char) :
    Except Fault Verdict := do
  let start ← authoredDate first
  let stop ← authoredDate last
  match Date.parse? answer, start, stop with
  | some day, some start, some stop =>
      if start.upTo day && day.upTo stop then return .accepted
      else rejectWith setting .dateRange [("start_date", first), ("end_date", last)]
  | _, _, _ => return reject setting override .format

def checkToday (setting : Setting) (override : Value) (after : Bool) (answer : List Char) :
    Verdict :=
  match Date.parse? answer with
  | none => reject setting override .format
  | some day =>
      if after then
        if setting.today.upTo day then .accepted else reject setting .null .dateAfter
      else if day.upTo setting.today then .accepted
      else reject setting .null .dateBefore

def checkCustom (setting : Setting) (rule override : Value) (answer : List Char) :
    Except Fault Verdict := do
  let pattern := (← rule.field "regex").getD .null
  let first := (← rule.field "startDate").getD .null
  let last := (← rule.field "endDate").getD .null
  if pattern.truthy then checkPattern setting override pattern answer
  else if first.truthy && last.truthy then checkRange setting override first last answer
  else return .accepted

/-- The verdict on `value` under `rule`. No rule, and a rule of an unknown kind, accept all. -/
def check (setting : Setting) (value rule : Value) : Except Fault Verdict := do
  if !rule.truthy then return .accepted
  let answer := (← value.toText).toList
  let kind := (← rule.field "type").getD .null
  let override := (← rule.field "errorMessage").getD .null
  match kind with
  | .text "email" => return if isEmail answer then .accepted else reject setting override .email
  | .text "phone number" =>
      return if isPhone answer then .accepted else reject setting override .phone
  | .text "custom" => checkCustom setting rule override answer
  | .text "today after" => return checkToday setting override true answer
  | .text "today before" => return checkToday setting override false answer
  | _ => return .accepted

end Rule

end Dialogue
