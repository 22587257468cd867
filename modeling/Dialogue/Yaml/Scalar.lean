import Dialogue.Authored
import Dialogue.Yaml.Tag
import Dialogue.Numeral
import Dialogue.Text.Case
import Dialogue.Yaml.Spot
import Dialogue.Text.Digit
import Dialogue.Text.Printable
/-!
The values of scalars by their tags.
-/
namespace Dialogue.Yaml

open Dialogue.Text

def dropLowLines (cs : List Char) : List Char := cs.filter fun c => !isLowLine c

/-- The text of a number without low lines, whether it is negative, and the rest after one sign. -/
def cutNumberSign (text : String) : Except Fault (Bool × List Char) :=
  match dropLowLines text.toList with
  | [] => .error .missingIndex
  | cs => .ok (Decimal.cutSign cs)

def digitIn? (base : Nat) (c : Char) : Option Nat :=
  let value :=
    if 'a' ≤ c.toLower && c.toLower ≤ 'z' then some (c.toLower.toNat - 87) else digit? c
  value.filter (· < base)

/-- Drops the mark of a base: a zero and a letter. -/
def dropBaseMark (letter : Char) (cs : List Char) : List Char :=
  match cs with
  | '0' :: c :: rest => if c.toLower = letter then rest else cs
  | _ => cs

/-- An integer in a base that its own mark may name again. -/
def integerIn (base : Nat) (letter : Char) (cs : List Char) : Except Fault Int :=
  let (negative, body) := Decimal.cutSign (strip cs)
  let digits := dropBaseMark letter body
  match digits.mapM (digitIn? base) with
  | some (first :: more) =>
      let n := (first :: more).foldl (base * · + ·) 0
      .ok (if negative then -(n : Int) else n)
  | _ => .error (.malformed (.numeral (String.ofList cs)))

/-- The integer that is written after its sign: binary, hexadecimal, octal after a zero, in sixties
or decimal. -/
def magnitude (cs : List Char) : Except Fault Int :=
  match cs with
  | [] => .error .missingIndex
  | ['0'] => .ok 0
  | '0' :: 'b' :: rest => integerIn 2 'b' rest
  | '0' :: 'x' :: rest => integerIn 16 'x' rest
  | '0' :: _ => integerIn 8 'o' cs
  | _ => do
      let parts ← (splitAll ':' cs).mapM Numeral.parse
      return parts.foldl (60 * · + ·) 0

def integer (text : String) : Except Fault Int := do
  let (negative, body) ← cutNumberSign text
  let n ← magnitude body
  return if negative then -n else n

def floatPart (cs : List Char) : Except Fault Float :=
  match Decimal.parse? cs with
  | some x => .ok x
  | none => .error (.malformed (.numeral (String.ofList cs)))

/-- Adds parts up, each of them sixty times the one after it. -/
def sumSixties : (scale sum : Float) → List Float → Float
  | _, sum, [] => sum
  | scale, sum, part :: parts => sumSixties (60.0 * scale) (sum + part * scale) parts

def float (text : String) : Except Fault Float := do
  let (negative, cs) ← cutNumberSign text
  let body := lower cs
  let x ←
    if String.ofList body = ".inf" then pure (1.0 / 0.0)
    else if String.ofList body = ".nan" then pure (0.0 / 0.0)
    else if body.contains ':' then do
      let parts ← (splitAll ':' body).mapM floatPart
      pure (sumSixties 1.0 0.0 parts.reverse)
    else floatPart body
  return Decimal.signed negative x

def bool (text : String) : Except Fault Bool :=
  let word := String.ofList (lower text.toList)
  if trueWords.contains word then .ok true
  else if falseWords.contains word then .ok false
  else .error (.missingField word)

def WrittenTime.exists? (time : WrittenTime) : Bool :=
  (Date.mk time.year time.month time.day).exists? &&
    (time.clock.all fun (hours, minutes, seconds) => hours < 24 && minutes < 60 && seconds < 60) &&
    (time.offset.all fun offset => offset.natAbs < 24 * 60)

/-- A number of at least `width` digits. -/
def padded (width n : Nat) : String :=
  let digits := toString n
  String.ofList (List.replicate (width - digits.length) '0') ++ digits

/-- The six digits of a fraction of a second with their point, nothing for a whole second. -/
def fractionText (digits : List Char) : String :=
  let six := (digits ++ List.replicate 6 '0').take 6
  if six.all (· = '0') then "" else String.ofList ('.' :: six)

def offsetText (offset : Int) : String :=
  (if offset < 0 then "-" else "+") ++ padded 2 (offset.natAbs / 60) ++ ":" ++
    padded 2 (offset.natAbs % 60)

/-- A point in time in full. -/
def WrittenTime.text (time : WrittenTime) : String :=
  let date := padded 4 time.year ++ "-" ++ padded 2 time.month ++ "-" ++ padded 2 time.day
  match time.clock with
  | none => date
  | some (hours, minutes, seconds) =>
      date ++ " " ++ padded 2 hours ++ ":" ++ padded 2 minutes ++ ":" ++ padded 2 seconds ++
        fractionText time.fraction ++ (time.offset.map offsetText).getD ""

def timestamp (text : String) : Except Fault String :=
  match time? (dropFinalBreak text.toList) with
  | none => .error (.clash (.lacksFields .null))
  | some time => if time.exists? then .ok time.text else .error (.malformed (.numeral text))

/-- What a scalar with a tag stands for. -/
def scalarValue (tag : Tag) (text : String) : Except Fault Authored :=
  match tag with
  | .null => .ok (.plain .null)
  | .bool => do return .plain (.bool (← bool text))
  | .int => do return .plain (.int (← integer text))
  | .float => do return .plain (.float (← float text))
  | .timestamp => do return .time (← timestamp text)
  | .text => .ok (.plain (.text text))
  | _ => .error .invalidYaml

end Dialogue.Yaml

/-!
Plain scalars, which have no quotes. They may go on over several lines.
-/
namespace Dialogue.Yaml

def isFlowMark (c : Char) : Bool := [',', '[', ']', '\x7b', '\x7d'].contains c

/-- A plain scalar stops before a gap, before a colon that ends a key, and in flow collections
before their marks. -/
def stopsPlain (inFlow : Bool) : List Char → Bool
  | [] => true
  | c :: cs =>
      isLineBlank c || isBreak c ||
        (c = ':' && (isGap cs || (inFlow && cs.head?.any isFlowMark))) ||
        (inFlow && (c = '?' || isFlowMark c))

/-- The part of a plain scalar up to the next gap. -/
def plainPart (inFlow : Bool) : List Char → List Char
  | [] => []
  | c :: cs => if stopsPlain inFlow (c :: cs) then [] else c :: plainPart inFlow cs

/-- Characters that no plain scalar starts with. -/
def isIndicator (c : Char) : Bool :=
  [',', '[', ']', '\x7b', '\x7d', '#', '&', '*', '!', '|', '>', '%', '@', Char.ofNat 96,
    Char.ofNat 39, Char.ofNat 34].contains c

def startsPlain (inFlow : Bool) (cs : List Char) : Bool :=
  match cs with
  | [] => false
  | c :: rest =>
      if c = '-' then !isGap rest
      else if c = '?' || c = ':' then !isGap rest && !inFlow
      else !isLineBlank c && !isBreak c && !isIndicator c

/-- Spaces and line breaks inside a plain scalar: what they stand for, the place after them, and
whether there was a line break. -/
structure Gap where
  text : List Char
  spot : Spot
  broken : Bool

/-- The line breaks after the first one with the spaces around them; `none` if a document starts or
ends among them. -/
def cutLines : (fuel : Nat) → Spot → Option (List Char) × Spot
  | 0, s => (some [], s)
  | fuel + 1, s =>
      if s.rest.head? = some ' ' then cutLines fuel s.step
      else
        match s.cutBreak with
        | ([], _) => (some [], s)
        | (text, t) =>
            if startsMarker t.rest then (none, t)
            else
              let (more, u) := cutLines fuel t
              (more.map (text ++ ·), u)

def cutGap (s : Spot) : Gap :=
  let (blanks, t) := s.cutWhile (· = ' ')
  match t.cutBreak with
  | ([], _) => ⟨blanks, t, false⟩
  | (first, u) =>
      if startsMarker u.rest then ⟨[], u, true⟩
      else
        match cutLines (u.rest.length + 1) u with
        | (none, v) => ⟨[], v, true⟩
        | (some breaks, v) => ⟨foldBreaks first breaks, v, true⟩

/-- A plain scalar, the place after it and the gap that follows, and whether that gap ends a line.
Outside of flow collections further lines are indented by at least `indent`. -/
def cutPlain (inFlow : Bool) (indent : Nat) :
    (fuel : Nat) → Spot → (gap read : List Char) → (broken : Bool) → List Char × Spot × Bool
  | 0, s, _, read, broken => (read, s, broken)
  | fuel + 1, s, gap, read, broken =>
      let part := plainPart inFlow s.rest
      if s.rest.head? = some '#' || part.isEmpty then (read, s, broken)
      else
        let text := read ++ gap ++ part
        let next := cutGap (s.skip part.length)
        if next.text.isEmpty || next.spot.rest.head? = some '#' ||
            (!inFlow && next.spot.column < indent) then (text, next.spot, next.broken)
        else cutPlain inFlow indent fuel next.spot next.text text next.broken

theorem plainPart_isPrefix (inFlow : Bool) (cs : List Char) : plainPart inFlow cs <+: cs := by
  induction cs with
  | nil => simp [plainPart]
  | cons c cs ih =>
      simp only [plainPart]
      split
      · exact List.nil_prefix
      · exact List.cons_prefix_cons.2 ⟨rfl, ih⟩

end Dialogue.Yaml

/-!
Quoted scalars. Line breaks inside are folded; escapes stand in double quotes only.
-/
namespace Dialogue.Yaml

open Dialogue.Text

def escapeCode? (c : Char) : Option Nat :=
  match c with
  | '0' => some 0
  | 'a' => some 7
  | 'b' => some 8
  | 't' | '\t' => some 9
  | 'n' => some 10
  | 'v' => some 11
  | 'f' => some 12
  | 'r' => some 13
  | 'e' => some 27
  | ' ' => some 32
  | '"' => some 34
  | '/' => some 47
  | '\\' => some 92
  | 'N' => some 0x85
  | '_' => some 0xa0
  | 'L' => some 0x2028
  | 'P' => some 0x2029
  | _ => none

/-- The number of digits of an escape for a code point. -/
def escapeWidth? (c : Char) : Option Nat :=
  match c with
  | 'x' => some 2
  | 'u' => some 4
  | 'U' => some 8
  | _ => none

/-- The number of exactly `width` hexadecimal digits. -/
def fixedHex? (width : Nat) (cs : List Char) : Option Nat :=
  let digits := cs.take width
  if digits.length < width then none else hexNumber? digits

/-- The character at a code point. Numbers of more than 31 bits are out of range, those that are not
but lie beyond the last code point stand for no character. -/
def charAt (code : Nat) : Except Fault Char :=
  if 0x7fffffff < code then .error .overflow
  else if 0x10ffff < code then .error (.malformed .codePoint)
  else .ok (Char.ofNat code)

/-- Line breaks and the blanks around them; a document may not end here. -/
def cutBreaks : (fuel : Nat) → Spot → Except Fault (List Char × Spot)
  | 0, s => .ok ([], s)
  | fuel + 1, s =>
      if startsMarker s.rest then refuse
      else
        let t := s.skipWhile isLineBlank
        match t.cutBreak with
        | ([], _) => .ok ([], t)
        | (text, u) => do
            let (more, v) ← cutBreaks fuel u
            return (text ++ more, v)

/-- What a backslash stands for, and the place after it. -/
def cutEscape (fuel : Nat) (s : Spot) : Except Fault (List Char × Spot) :=
  match s.rest with
  | [] => refuse
  | c :: cs =>
      match escapeCode? c, escapeWidth? c with
      | some code, _ => .ok ([Char.ofNat code], s.step)
      | none, some width =>
          match fixedHex? width cs with
          | some code => do return ([← charAt code], s.skip (width + 1))
          | none => refuse
      | none, none => if isBreak c then cutBreaks fuel s.step else refuse

/-- The rest of a quoted scalar from after its opening quote. What has been read is in `read`, last
character first. -/
def cutQuoted (double : Bool) : (fuel : Nat) → Spot → (read : List Char) →
    Except Fault (List Char × Spot)
  | 0, _, _ => refuse
  | fuel + 1, s, read =>
      match s.rest with
      | [] => refuse
      | c :: cs =>
          if isLineBlank c || isBreak c then
            let (blanks, t) := s.cutWhile isLineBlank
            match t.cutBreak with
            | ([], _) =>
                if t.rest.isEmpty then refuse
                else cutQuoted double fuel t (blanks.reverse ++ read)
            | (first, u) => do
                let (breaks, v) ← cutBreaks fuel u
                cutQuoted double fuel v ((foldBreaks first breaks).reverse ++ read)
          else if double && c = '"' then .ok (read.reverse, s.step)
          else if double && c = '\\' then do
            let (text, t) ← cutEscape fuel s.step
            cutQuoted double fuel t (text.reverse ++ read)
          else if !double && c = singleQuote then
            if cs.head? = some singleQuote then cutQuoted double fuel (s.skip 2) (c :: read)
            else .ok (read.reverse, s.step)
          else cutQuoted double fuel s.step (c :: read)

end Dialogue.Yaml

/-!
Literal and folded blocks: scalars of whole lines that are indented further than what holds them.
-/
namespace Dialogue.Yaml

open Dialogue.Text

/-- How the breaks at the end of a block are kept: all, none, or one. -/
inductive Ending where
  | all
  | none
  | one
  deriving DecidableEq, Repr

/-- What stands after the mark of a block: its ending, and how far it is indented. -/
structure Header where
  ending : Ending
  width : Option Nat
  deriving DecidableEq, Repr

def cutEnding (s : Spot) : Ending × Spot :=
  match s.rest with
  | '+' :: _ => (.all, s.step)
  | '-' :: _ => (.none, s.step)
  | _ => (.one, s)

/-- A digit from one to nine. -/
def cutWidth (s : Spot) : Except Fault (Option Nat × Spot) :=
  match s.rest with
  | c :: _ =>
      if c = '0' then refuse
      else if isAsciiDigit c then .ok (some (c.toNat - 48), s.step)
      else .ok (none, s)
  | [] => .ok (none, s)

/-- Ending and width in either order. -/
def cutHeader (s : Spot) : Except Fault (Header × Spot) := do
  let (ending, t) := cutEnding s
  let (width, u) ← cutWidth t
  let (ending, u) := if t = s && width.isSome then cutEnding u else (ending, u)
  if endsWord u.rest then return (⟨ending, width⟩, ← u.skipLine) else refuse

/-- The blank lines before the first line of a block, and the greatest indentation up to it. -/
def cutBlankLines : (fuel : Nat) → (widest : Nat) → Spot → List Char × Nat × Spot
  | 0, widest, s => ([], widest, s)
  | fuel + 1, widest, s =>
      if s.rest.head? = some ' ' then cutBlankLines fuel (max widest s.step.column) s.step
      else
        match s.cutBreak with
        | ([], _) => ([], widest, s)
        | (text, t) =>
            let (more, width, u) := cutBlankLines fuel widest t
            (text ++ more, width, u)

/-- Passes over spaces up to the column `indent`. -/
def skipIndent (indent : Nat) (s : Spot) : Spot :=
  s.skip (min (indent - s.column) (s.rest.takeWhile (· = ' ')).length)

/-- Blank lines of a block that is indented by `indent`. -/
def cutBlockBreaks (indent : Nat) : (fuel : Nat) → Spot → List Char × Spot
  | 0, s => ([], s)
  | fuel + 1, s =>
      let t := skipIndent indent s
      match t.cutBreak with
      | ([], _) => ([], t)
      | (text, u) =>
          let (more, v) := cutBlockBreaks indent fuel u
          (text ++ more, v)

/-- The line of a block goes on at `s`. -/
def isInBlock (indent : Nat) (s : Spot) : Bool := s.column = indent && !s.rest.isEmpty

/-- The lines of a block: what they stand for, the last line break, and the breaks after it. Breaks
between lines that start with no blank are folded. -/
def cutBlockLines (folded : Bool) (indent : Nat) :
    (fuel : Nat) → Spot → (read lastBreak breaks : List Char) →
      List Char × List Char × List Char × Spot
  | 0, s, read, lastBreak, breaks => (read, lastBreak, breaks, s)
  | fuel + 1, s, read, lastBreak, breaks =>
      if !isInBlock indent s then (read, lastBreak, breaks, s)
      else
        let flush := !s.rest.head?.any isLineBlank
        let (line, t) := s.cutWhile fun c => !isBreak c
        let (ending, u) := t.cutBreak
        let (more, v) := cutBlockBreaks indent (u.rest.length + 1) u
        let text := read ++ breaks ++ line
        let joint :=
          if !isInBlock indent v then []
          else if folded && ending = ['\n'] && flush && !v.rest.head?.any isLineBlank then
            (if more.isEmpty then [' '] else [])
          else ending
        cutBlockLines folded indent fuel v (text ++ joint) ending more

/-- A block from after its mark, inside of what is indented by less than `least`. -/
def cutBlock (folded : Bool) (least : Nat) (s : Spot) : Except Fault (List Char × Spot) := do
  let (header, t) ← cutHeader s
  let fuel := t.rest.length + 1
  let outer := max least 1
  let (breaks, indent, u) := match header.width with
    | some width =>
        let indent := outer + width - 1
        let (breaks, u) := cutBlockBreaks indent fuel t
        (breaks, indent, u)
    | none =>
        let (breaks, width, u) := cutBlankLines fuel 0 t
        (breaks, max outer width, u)
  let (text, lastBreak, after, v) := cutBlockLines folded indent fuel u [] [] breaks
  return match header.ending with
    | .none => (text, v)
    | .one => (text ++ lastBreak, v)
    | .all => (text ++ lastBreak ++ after, v)

end Dialogue.Yaml
