import Dialogue.Fault
import Dialogue.Text.Digit
/-!
How a value is to be laid out in a field:
`[[fill]align][sign][z][#][0][width][mark][.precision][kind]`.
-/
namespace Dialogue.Format

open Dialogue.Text

/-- Where the filling of a wider field goes; `inner` puts it behind the sign of a number. -/
inductive Align where
  | left
  | right
  | center
  | inner
  deriving DecidableEq, Repr

def Align.ofChar? : Char → Option Align
  | '<' => some .left
  | '>' => some .right
  | '^' => some .center
  | '=' => some .inner
  | _ => none

/-- What stands before a number that is not negative. -/
inductive Sign where
  | minus
  | plus
  | space
  deriving DecidableEq, Repr

def Sign.ofChar? : Char → Option Sign
  | '-' => some .minus
  | '+' => some .plus
  | ' ' => some .space
  | _ => none

/-- The mark between groups of digits. -/
inductive Separator where
  | comma
  | lowLine
  deriving DecidableEq, Repr

def Separator.char : Separator → Char
  | .comma => ','
  | .lowLine => '_'

/-- With `plainZero` a number that rounds to zero is not negative. With `alternate` integers name
their base and floats keep their point. -/
structure Spec where
  fill : Char
  align : Align
  sign : Option Sign
  plainZero : Bool
  alternate : Bool
  width : Nat
  separator : Option Separator
  precision : Option Nat
  kind : Char
  deriving DecidableEq, Repr

/-- The layout of values for which nothing else is said. -/
structure Default where
  kind : Char
  align : Align

def refuse {α : Type} : Except Fault α := .error (.malformed .template)

def maxNumber : Nat := Nat.pow 2 63 - 1

/-- The number that digits of any script write, within bounds. -/
def number (digits : List Char) : Except Fault Nat :=
  let n := decimalValue digits
  if maxNumber < n then refuse else .ok n

/-- Drops `c` off the front. -/
def cutFlag (c : Char) : List Char → Bool × List Char
  | d :: cs => if d = c then (true, cs) else (false, d :: cs)
  | [] => (false, [])

/-- Cuts an alignment off the front, with its filling if there is one. -/
def cutAlign (cs : List Char) : Option Char × Option Align × List Char :=
  let single : Option Char × Option Align × List Char := match cs with
    | a :: rest =>
        match Align.ofChar? a with
        | some align => (none, some align, rest)
        | none => (none, none, cs)
    | [] => (none, none, [])
  match cs with
  | fill :: a :: rest =>
      match Align.ofChar? a with
      | some align => (some fill, some align, rest)
      | none => single
  | _ => single

def cutSeparator (cs : List Char) : Except Fault (Option Separator × List Char) :=
  match cs with
  | ',' :: '_' :: _ | '_' :: ',' :: _ => refuse
  | ',' :: rest => .ok (some .comma, rest)
  | '_' :: rest => .ok (some .lowLine, rest)
  | _ => .ok (none, cs)

def cutPrecision (cs : List Char) : Except Fault (Option Nat × List Char) :=
  match cs with
  | '.' :: rest => do
      let digits := rest.takeWhile isDecimal
      if digits.isEmpty then refuse
      return (some (← number digits), rest.dropWhile isDecimal)
  | _ => .ok (none, cs)

/-- Decimal numbers take both marks; numbers in other bases take the low line. -/
def separates (kind : Char) : Separator → Bool
  | .comma => ['d', 'e', 'f', 'g', 'E', 'G', '%', 'F', '\x00'].contains kind
  | .lowLine =>
      ['d', 'e', 'f', 'g', 'E', 'G', '%', 'F', '\x00', 'b', 'o', 'x', 'X'].contains kind

def Spec.read (default : Default) (cs : List Char) : Except Fault Spec := do
  let (fill, align, cs) := cutAlign cs
  let (sign, cs) := match cs with
    | c :: rest => match Sign.ofChar? c with
        | some sign => (some sign, rest)
        | none => (none, cs)
    | [] => (none, [])
  let (plainZero, cs) := cutFlag 'z' cs
  let (alternate, cs) := cutFlag '#' cs
  let (zeros, cs) := if fill.isSome then (false, cs) else cutFlag '0' cs
  let width ← number (cs.takeWhile isDecimal)
  let (separator, cs) ← cutSeparator (cs.dropWhile isDecimal)
  let (precision, cs) ← cutPrecision cs
  let kind ← match cs with
    | [] => pure default.kind
    | [c] => pure c
    | _ => refuse
  if !(separator.all (separates kind)) then refuse
  let usual := if zeros && default.align = .right then .inner else default.align
  return {
    fill := fill.getD (if zeros then '0' else ' ')
    align := align.getD usual
    sign, plainZero, alternate, width, separator, precision, kind }

/-- What stands before and after a text of the given length to fill a field. -/
def Spec.padding (spec : Spec) (length : Nat) : List Char × List Char :=
  let room := spec.width - length
  let fill := fun n => List.replicate n spec.fill
  match spec.align with
  | .left => ([], fill room)
  | .right => (fill room, [])
  | .center => (fill (room / 2), fill (room - room / 2))
  | .inner => ([], [])

theorem Spec.padding_length (spec : Spec) (length : Nat) (h : spec.align ≠ .inner) :
    (spec.padding length).1.length + (spec.padding length).2.length = spec.width - length := by
  cases ha : spec.align <;> simp_all [padding]
  omega

end Dialogue.Format
