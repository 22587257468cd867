import Dialogue.Regex.Written
import Dialogue.Text.Name
/-!
Reading escapes and sets of characters.
-/
namespace Dialogue.Regex

open Dialogue.Text

def isHexDigit (c : Char) : Bool := (hexValue? c).isSome

def isOctalDigit (c : Char) : Bool := '0' ≤ c && c ≤ '7'

def inBase (base : Nat) (digits : List Char) : Nat :=
  digits.foldl (fun n c => base * n + (hexValue? c).getD 0) 0

/-- A code point of exactly `count` hexadecimal digits. -/
def readHex (count : Nat) : Reader Nat := do
  let digits ← readWhile isHexDigit count
  let code := inBase 16 digits
  if digits.length ≠ count || 0x10ffff < code then refuse
  return code

/-- Escapes for single characters, and classes; `none` for the others. -/
def controlCode? (c : Char) : Option Nat :=
  match c with
  | 'a' => some 7
  | 'b' => some 8
  | 'f' => some 12
  | 'n' => some 10
  | 'r' => some 13
  | 't' => some 9
  | 'v' => some 11
  | '\\' => some 92
  | _ => none

def category? (c : Char) : Option Item :=
  match c with
  | 'd' => some (.category .digit false)
  | 'D' => some (.category .digit true)
  | 's' => some (.category .blank false)
  | 'S' => some (.category .blank true)
  | 'w' => some (.category .word false)
  | 'W' => some (.category .word true)
  | _ => none

def isAsciiLetter (c : Char) : Bool := c.isAlpha

/-- A character given by its name in braces. -/
def readNamed : Reader Nat := do
  require '\x7b'
  match Name.find? (← readName '\x7d') with
  | some code => return code
  | none => refuse

/-- Escapes that mean the same inside and outside of a set. -/
def readCode (c : Char) : Reader Nat :=
  match c with
  | 'N' => readNamed
  | 'x' => readHex 2
  | 'u' => readHex 4
  | 'U' => readHex 8
  | _ => if isAsciiLetter c || isAsciiDigit c then refuse else return c.toNat

/-- An escape inside a set. -/
def readSetEscape (c : Char) : Reader Item := do
  match controlCode? c, category? c with
  | some code, _ => return .code code
  | none, some item => return item
  | none, none =>
      if isOctalDigit c then
        let code := inBase 8 (c :: (← readWhile isOctalDigit 2))
        if 0o377 < code then refuse
        return .code code
      else return .code (← readCode c)

/-- One member of a set; a category is no end of a range. -/
def readMember (token : Token) : Reader Item :=
  match token with
  | .plain c => return .code c.toNat
  | .escaped c => readSetEscape c
  | .dangling => refuse

def rangeOf? : Item → Item → Option Item
  | .code low, .code high => if low ≤ high then some (.range low high) else none
  | _, _ => none

/-- The members of a set up to its closing bracket, which stands for itself in the first place. -/
def readMembers : (limit : Nat) → (first : Bool) → Reader (List Item)
  | 0, _ => refuse
  | limit + 1, first => do
      match ← advance with
      | none => refuse
      | some token =>
          if token = .plain ']' && !first then return []
          let low ← readMember token
          if ← accept '-' then
            match ← advance with
            | none => refuse
            | some last =>
                if last = .plain ']' then return [low, .code 45]
                match rangeOf? low (← readMember last) with
                | some range => return range :: (← readMembers limit false)
                | none => refuse
          else return low :: (← readMembers limit false)

/-- The test that the members of a set make. A single character is no set. -/
def testOf (options : Options) (negated : Bool) (items : List Item) : Regex :=
  let shape := match items.eraseDups with
    | [.code n] => Shape.code n negated
    | items => .set items negated
  .one (Test.make shape (options.contains 'i') (options.contains 'a'))

def readSet (options : Options) : Reader Regex := do
  let negated ← accept '^'
  let items ← readMembers ((← get).rest.length + 1) true
  return testOf options negated items

/-- A group that has been closed. -/
def isClosed (number : Nat) : Reader Bool := return ((← get).widths.lookup number).isSome

/-- Inside a look-behind only groups closed before it may be referred to. -/
def checkBehind (number : Nat) : Reader Unit := do
  match (← get).behind with
  | some opened => if !(← isClosed number) || opened < number then refuse
  | none => return

def readReference (options : Options) (number : Nat) : Reader Regex := do
  if !(← isClosed number) then refuse
  checkBehind number
  return .sameAs number (options.contains 'i') (options.contains 'a')

/-- An escape of digits: three octal digits are a code point, others the number of a group. -/
def readDigits (options : Options) (c : Char) : Reader Regex := do
  if c = '0' then
    return testOf options false [.code (inBase 8 (← readWhile isOctalDigit 2))]
  let second ← readWhile isAsciiDigit 1
  match second with
  | [d] =>
      if isOctalDigit c && isOctalDigit d then
        match ← readWhile isOctalDigit 1 with
        | [e] =>
            let code := inBase 8 [c, d, e]
            if 0o377 < code then refuse
            return testOf options false [.code code]
        | _ => readReference options (inBase 10 [c, d])
      else readReference options (inBase 10 [c, d])
  | _ => readReference options (inBase 10 [c])

/-- An escape outside of a set. -/
def readEscape (options : Options) (c : Char) : Reader Regex := do
  match c with
  | 'A' => return .anchor .textStart
  | 'Z' => return .anchor .textEnd
  | 'b' => return .anchor (.boundary (options.contains 'a') false)
  | 'B' => return .anchor (.boundary (options.contains 'a') true)
  | _ =>
      match category? c, controlCode? c with
      | some item, _ => return testOf options false [item]
      | none, some code => return testOf options false [.code code]
      | none, none =>
          if isAsciiDigit c then readDigits options c
          else return testOf options false [.code (← readCode c)]

end Dialogue.Regex
