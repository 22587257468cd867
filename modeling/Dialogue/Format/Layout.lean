import Dialogue.Format.Spec
import Dialogue.Decimal.Layout
import Dialogue.Decimal.Reader
import Dialogue.Value.Convert
/-!
Values laid out in fields: texts, integers in several bases, and floats.
-/
namespace Dialogue.Format

open Dialogue.Text

/-- Texts are cut to the precision. They have no sign, base or filling behind a sign. -/
def Spec.text (spec : Spec) (cs : List Char) : Except Fault (List Char) :=
  if spec.kind ≠ 's' || spec.sign.isSome || spec.plainZero || spec.alternate ||
      spec.align = .inner then refuse
  else
    let shown := match spec.precision with
      | some n => cs.take n
      | none => cs
    let (before, after) := spec.padding shown.length
    .ok (before ++ shown ++ after)

/-- Digits in groups of `size` with a mark between them, filled up with zeros to `width`. The
digits go from the last to the first. -/
def grouped (mark : Char) (size : Nat) (h : 0 < size) (digits : List Char) (width : Nat) :
    List Char :=
  let length := min size (max (max digits.length width) 1)
  let group := digits.take length ++ List.replicate (length - digits.length) '0'
  if digits.length ≤ length ∧ width ≤ length then group
  else group ++ mark :: grouped mark size h (digits.drop length) (width - length - 1)
termination_by digits.length + width
decreasing_by simp only [List.length_drop]; omega

/-- A number: its sign, the name of its base, its digits, and the rest from the point on. -/
structure Parts where
  negative : Bool
  base : List Char
  digits : List Char
  rest : List Char

def Parts.sign (parts : Parts) (sign : Option Sign) : List Char :=
  if parts.negative then ['-']
  else match sign with
    | some .plus => ['+']
    | some .space => [' ']
    | _ => []

/-- Groups hold three digits of decimal numbers and four of others. -/
def Spec.groups (spec : Spec) (digits : List Char) (width : Nat) : List Char :=
  if digits.isEmpty then []
  else
    match spec.separator with
    | none => List.replicate (width - digits.length) '0' ++ digits
    | some mark =>
        if ['b', 'o', 'x', 'X'].contains spec.kind then
          (grouped mark.char 4 (by decide) digits.reverse width).reverse
        else (grouped mark.char 3 (by decide) digits.reverse width).reverse

/-- Zeros that fill a field behind the sign count as digits. -/
def Spec.lay (spec : Spec) (parts : Parts) : List Char :=
  let sign := parts.sign spec.sign
  let others := sign.length + parts.base.length + parts.rest.length
  let zeros := if spec.fill = '0' && spec.align = .inner then spec.width - others else 0
  let digits := spec.groups parts.digits zeros
  let (before, after) := spec.padding (others + digits.length)
  let inside := if spec.align = .inner then spec.width - (others + digits.length) else 0
  before ++ sign ++ parts.base ++ List.replicate inside spec.fill ++ digits ++ parts.rest ++ after

/-- The base of a kind of integers, and its name. -/
def base? : Char → Option (Nat × List Char)
  | 'b' => some (2, ['0', 'b'])
  | 'o' => some (8, ['0', 'o'])
  | 'x' | 'X' => some (16, ['0', 'x'])
  | _ => none

def Spec.character (spec : Spec) (n : Int) : Except Fault (List Char) :=
  if spec.sign.isSome || spec.alternate then refuse
  else if n < 0 || 0x10ffff < n then .error .overflow
  else .ok (spec.lay ⟨false, [], [], [Char.ofNat n.toNat]⟩)

def Spec.integer (spec : Spec) (n : Int) : Except Fault (List Char) := do
  if spec.precision.isSome || spec.plainZero then refuse
  if spec.kind = 'c' then spec.character n
  else
    match base? spec.kind with
    | some (base, name) =>
        let upper := fun (cs : List Char) => if spec.kind = 'X' then cs.map Char.toUpper else cs
        return spec.lay
          ⟨n < 0, upper (if spec.alternate then name else []),
            upper (Nat.toDigits base n.natAbs), []⟩
    | none =>
        let digits := (← Numeral.print n.natAbs).toList
        return spec.lay ⟨n < 0, [], digits, []⟩

/-- Numbers from this precision on are refused. -/
def precisionLimit : Nat := Nat.pow 2 31 - 1

/-- Digits up to the point if the leading one is neither too far behind it nor, as `limit` says,
too far before it, else with an exponent. -/
def general (limit : Int) (alternate dotted : Bool) (s : Decimal.Significant) : List Char :=
  if s.place < -4 || limit < s.place + 1 then s.scientific alternate
  else
    let text := s.positional alternate
    if !dotted || (text.contains '.' && text.getLast? ≠ some '.') then text
    else text.filter (· ≠ '.') ++ ['.', '0']

/-- The text of a finite float without its sign. -/
def Spec.magnitude (spec : Spec) (x : Decimal.Binary) : List Char :=
  let precision := spec.precision.getD 6
  match spec.kind with
  | 'e' | 'E' => (x.significant (precision + 1)).scientific spec.alternate
  | 'f' | 'F' | '%' => Decimal.fixed spec.alternate precision (x.atPlaces precision)
  | kind =>
      let dotted : Bool := kind = '\x00'
      if dotted && spec.precision.isNone then general 16 spec.alternate true x.fewest
      else
        let count := max precision 1
        let s := x.significant count
        let kept : Decimal.Significant :=
          if spec.alternate then s
          else
            let digits := Decimal.dropZeros s.digits
            ⟨if digits.isEmpty then ['0'] else digits, s.place⟩
        general (if dotted then count - 1 else count) spec.alternate dotted kept

def isZeroText (cs : List Char) : Bool :=
  (cs.takeWhile fun c => c ≠ 'e').all fun c => c = '0' || c = '.'

def isFloatKind (kind : Char) : Bool :=
  ['e', 'E', 'f', 'F', 'g', 'G', 'n', '%', '\x00'].contains kind

def Spec.float (spec : Spec) (x : Float) : Except Fault (List Char) :=
  if !isFloatKind spec.kind then refuse
  else if spec.precision.any (precisionLimit < ·) then refuse
  else
    let y := if spec.kind = '%' then x * 100 else x
    let text := match Decimal.Binary.ofFloat? y with
      | some b => spec.magnitude b
      | none => if y.isNaN then ['n', 'a', 'n'] else ['i', 'n', 'f']
    let negative := Decimal.isNegative y && !y.isNaN && !(spec.plainZero && isZeroText text)
    let cased := if ['E', 'F', 'G'].contains spec.kind then text.map Char.toUpper else text
    let shown := if spec.kind = '%' then cased ++ ['%'] else cased
    .ok (spec.lay ⟨negative, [], shown.takeWhile isAsciiDigit, shown.dropWhile isAsciiDigit⟩)

def isIntegerKind (kind : Char) : Bool := ['b', 'c', 'd', 'o', 'x', 'X', 'n'].contains kind

/-- Integers are laid out as floats where the kind asks for it. -/
def layInteger (cs : List Char) (n : Int) : Except Fault (List Char) := do
  let spec ← Spec.read ⟨'d', .right⟩ cs
  if isIntegerKind spec.kind then spec.integer n
  else if isFloatKind spec.kind && spec.kind ≠ '\x00' then
    match Decimal.ofInt? n with
    | some x => spec.float x
    | none => .error .overflow
  else refuse

/-- A value in a field that `cs` describes; without a description it is displayed. -/
def layout (cs : List Char) (v : Value) : Except Fault (List Char) := do
  if cs.isEmpty then return (← v.display).toList
  match v with
  | .text s => (← Spec.read ⟨'s', .left⟩ cs).text s.toList
  | .int n => layInteger cs n
  | .bool b => layInteger cs (if b then 1 else 0)
  | .float x => (← Spec.read ⟨'\x00', .right⟩ cs).float x
  | other => .error (.clash (.lacksLayout other.kind))

end Dialogue.Format
