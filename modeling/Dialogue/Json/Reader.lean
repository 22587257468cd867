import Dialogue.Numeral
/-!
Reading JSON text. Besides standard JSON, the constants `NaN`, `Infinity` and `-Infinity` are
read; of two fields with one key the first place and the last value hold.
-/
namespace Dialogue.Json

open Dialogue.Text

/-- A place in a text and what follows it. -/
structure Cursor where
  position : Nat
  rest : List Char
  deriving DecidableEq, Repr

inductive Refusal where
  | at (complaint : Complaint) (position : Nat)
  | longInteger (digits : Nat)
  deriving DecidableEq, Repr

def isGap (c : Char) : Bool := c = ' ' || c = '\t' || c = '\n' || c = '\r'

def Cursor.skip (c : Cursor) (n : Nat) : Cursor := ⟨c.position + n, c.rest.drop n⟩

def skipGaps (position : Nat) : List Char → Cursor
  | [] => ⟨position, []⟩
  | c :: cs => if isGap c then skipGaps (position + 1) cs else ⟨position, c :: cs⟩

def Cursor.skipGaps (c : Cursor) : Cursor := Json.skipGaps c.position c.rest

def isHighSurrogate (n : Nat) : Bool := 0xd800 ≤ n && n ≤ 0xdbff

def isLowSurrogate (n : Nat) : Bool := 0xdc00 ≤ n && n ≤ 0xdfff

def joinSurrogates (high low : Nat) : Char :=
  Char.ofNat (0x10000 + (high - 0xd800) * 0x400 + (low - 0xdc00))

/-- The character of a code point; a surrogate that stands alone is replaced. -/
def charOfCode (n : Nat) : Char :=
  if isHighSurrogate n || isLowSurrogate n then Char.ofNat 0xfffd else Char.ofNat n

def simpleEscape? (c : Char) : Option Char :=
  match c with
  | '"' => some '"'
  | '\\' => some '\\'
  | '/' => some '/'
  | 'b' => some (Char.ofNat 8)
  | 'f' => some (Char.ofNat 12)
  | 'n' => some '\n'
  | 'r' => some '\r'
  | 't' => some '\t'
  | _ => none

/-- A quoted text from after its opening quote, which stands at `start`. -/
def readText (start position : Nat) : List Char → Except Refusal (List Char × Cursor)
  | [] => .error (.at .unterminated start)
  | '"' :: cs => .ok ([], ⟨position + 1, cs⟩)
  | ['\\'] => .error (.at .unterminated start)
  | '\\' :: 'u' :: a :: b :: c :: d :: '\\' :: 'u' :: e :: f :: g :: h :: next :: cs =>
      match hexNumber? [a, b, c, d] with
      | none => .error (.at .badUnicodeEscape (position + 1))
      | some high =>
          if isHighSurrogate high then
            match hexNumber? [e, f, g, h] with
            | none => .error (.at .badUnicodeEscape (position + 7))
            | some low =>
                if isLowSurrogate low then do
                  let (s, cursor) ← readText start (position + 12) (next :: cs)
                  return (joinSurrogates high low :: s, cursor)
                else do
                  let (s, cursor) ←
                    readText start (position + 6) ('\\' :: 'u' :: e :: f :: g :: h :: next :: cs)
                  return (charOfCode high :: s, cursor)
          else do
            let (s, cursor) ←
              readText start (position + 6) ('\\' :: 'u' :: e :: f :: g :: h :: next :: cs)
            return (charOfCode high :: s, cursor)
  | '\\' :: 'u' :: a :: b :: c :: d :: next :: cs =>
      match hexNumber? [a, b, c, d] with
      | none => .error (.at .badUnicodeEscape (position + 1))
      | some code => do
          let (s, cursor) ← readText start (position + 6) (next :: cs)
          return (charOfCode code :: s, cursor)
  | '\\' :: c :: cs =>
      match simpleEscape? c with
      | some plain => do
          let (s, cursor) ← readText start (position + 2) cs
          return (plain :: s, cursor)
      | none =>
          if c = 'u' then .error (.at .badUnicodeEscape (position + 1))
          else .error (.at .badEscape position)
  | c :: cs =>
      if c.toNat < 32 then .error (.at .controlCharacter position)
      else do
        let (s, cursor) ← readText start (position + 1) cs
        return (c :: s, cursor)

/-- The digits of a number's whole part: a lone zero, or digits that start with none. -/
def wholeDigits (cs : List Char) : List Char :=
  match cs with
  | '0' :: _ => ['0']
  | _ => cs.takeWhile isAsciiDigit

def fractionDigits (cs : List Char) : List Char :=
  match cs with
  | '.' :: more => more.takeWhile isAsciiDigit
  | _ => []

/-- A number at the front of a text, if one stands there. -/
def readNumber? (cursor : Cursor) : Option (Except Refusal (Value × Cursor)) :=
  let negative := cursor.rest.head? = some '-'
  let start := if negative then cursor.skip 1 else cursor
  let whole := wholeDigits start.rest
  if whole.isEmpty then none
  else
    let afterWhole := start.skip whole.length
    let fraction := fractionDigits afterWhole.rest
    let afterFraction :=
      if fraction.isEmpty then afterWhole else afterWhole.skip (fraction.length + 1)
    let (exponent, rest) := Decimal.cutExponent isAsciiDigit afterFraction.rest
    let after : Cursor :=
      ⟨afterFraction.position + (afterFraction.rest.length - rest.length), rest⟩
    if fraction.isEmpty && rest.length = afterFraction.rest.length then
      if Numeral.maxDigits < whole.length then some (.error (.longInteger whole.length))
      else
        let n : Int := decimalValue whole
        some (.ok (.int (if negative then -n else n), after))
    else
      let x := Decimal.toFloat (decimalValue (whole ++ fraction)) (exponent - fraction.length)
      some (.ok (.float (Decimal.signed negative x), after))

def constants : List (String × Value) :=
  [("null", .null), ("true", .bool true), ("false", .bool false), ("NaN", .float (0.0 / 0.0)),
    ("Infinity", .float (1.0 / 0.0)), ("-Infinity", .float (-1.0 / 0.0))]

def readConstant? (cursor : Cursor) : Option (Value × Cursor) :=
  constants.findSome? fun (name, v) =>
    if name.toList.isPrefixOf cursor.rest then some (v, cursor.skip name.length) else none

mutual

/-- The value that starts at the cursor; `depth` bounds the steps that are still needed. -/
def readValue : (depth : Nat) → Cursor → Except Refusal (Value × Cursor)
  | 0, cursor => .error (.at .noValue cursor.position)
  | depth + 1, cursor =>
      match cursor.rest with
      | '"' :: cs => do
          let (s, after) ← readText cursor.position (cursor.position + 1) cs
          return (.text (String.ofList s), after)
      | '[' :: cs =>
          let next := skipGaps (cursor.position + 1) cs
          if next.rest.head? = some ']' then .ok (.list [], next.skip 1)
          else do
            let (items, after) ← readItems depth next
            return (.list items, after)
      | '{' :: cs =>
          let next := skipGaps (cursor.position + 1) cs
          if next.rest.head? = some '}' then .ok (.object [], next.skip 1)
          else do
            let (fields, after) ← readFields depth next
            return (.object (Mapping.ofEntries fields), after)
      | _ =>
          match readConstant? cursor with
          | some found => .ok found
          | none => (readNumber? cursor).getD (.error (.at .noValue cursor.position))

def readItems : (depth : Nat) → Cursor → Except Refusal (List Value × Cursor)
  | 0, cursor => .error (.at .noValue cursor.position)
  | depth + 1, cursor => do
      let (v, after) ← readValue depth cursor
      let next := after.skipGaps
      match next.rest with
      | ']' :: _ => return ([v], next.skip 1)
      | ',' :: _ => do
          let (vs, last) ← readItems depth (next.skip 1).skipGaps
          return (v :: vs, last)
      | _ => .error (.at .noComma next.position)

def readFields : (depth : Nat) → Cursor → Except Refusal (List (String × Value) × Cursor)
  | 0, cursor => .error (.at .noPropertyName cursor.position)
  | depth + 1, cursor =>
      match cursor.rest with
      | '"' :: cs => do
          let (key, afterKey) ← readText cursor.position (cursor.position + 1) cs
          let colon := afterKey.skipGaps
          if colon.rest.head? ≠ some ':' then .error (.at .noColon colon.position)
          else
            let (v, after) ← readValue depth (colon.skip 1).skipGaps
            let next := after.skipGaps
            match next.rest with
            | '}' :: _ => return ([(String.ofList key, v)], next.skip 1)
            | ',' :: _ => do
                let (fields, last) ← readFields depth (next.skip 1).skipGaps
                return ((String.ofList key, v) :: fields, last)
            | _ => .error (.at .noComma next.position)
      | _ => .error (.at .noPropertyName cursor.position)

end

def Refusal.toFault (text : List Char) : Refusal → Fault
  | .at complaint position => .invalidJson (.at complaint text position)
  | .longInteger digits => .malformed (.longInteger digits)

/-- The value that a whole text writes. -/
def readChars (text : List Char) : Except Refusal Value :=
  if text.head? = some (Char.ofNat 0xfeff) then .error (.at .byteOrderMark 0)
  else do
    let (v, after) ← readValue (text.length + 1) (skipGaps 0 text)
    let last := after.skipGaps
    if last.rest.isEmpty then return v else .error (.at .extraData last.position)

def read (text : String) : Except Fault Value :=
  (readChars text.toList).mapError (Refusal.toFault text.toList)

/-- A body may begin with a mark of its byte order, which does not count. -/
def readBody (body : String) : Except Fault Value :=
  match body.toList with
  | c :: rest => read (if c = Char.ofNat 0xfeff then String.ofList rest else body)
  | [] => read body

end Dialogue.Json
