import Dialogue.Regex.Basic
/-!
The written form of expressions as a row of characters and escapes, and taking them one by one.
-/
namespace Dialogue.Regex

open Dialogue.Text

inductive Refusal where
  | malformed
  | overflow
  | longNumber (digits : Nat)
  | mixedAlphabets
  deriving DecidableEq, Repr

/-- A character, alone or behind a backslash; a last backslash dangles. -/
inductive Token where
  | plain (c : Char)
  | escaped (c : Char)
  | dangling
  deriving DecidableEq, Repr

def tokens : List Char → List Token
  | [] => []
  | ['\\'] => [.dangling]
  | '\\' :: c :: cs => .escaped c :: tokens cs
  | c :: cs => .plain c :: tokens cs

def Token.text : Token → List Char
  | .plain c => [c]
  | .escaped c => ['\\', c]
  | .dangling => ['\\']

/-- The letters of the options that are on. -/
abbrev Options := List Char

def knownOptions : List Char := ['i', 'L', 'm', 's', 'x', 'a', 't', 'u']

def isAlphabet (c : Char) : Bool := c = 'a' || c = 'u' || c = 'L'

/-- Options inside a group that turns on `on` and turns off `off`. -/
def Options.scope (options on off : Options) : Options :=
  let kept := if on.any isAlphabet then options.filter fun c => !isAlphabet c else options
  (kept ++ on).filter fun c => !off.contains c

/-- What has been read and what is left to read. `behind` is the number of groups that were open
when the outermost look-behind began. -/
structure Progress where
  rest : List Token
  options : Options
  opened : Nat
  names : List (String × Nat)
  widths : List (Nat × Width)
  behind : Option Nat
  mentioned : List Nat
  repeats : Bool
  unevenBehind : Bool

abbrev Reader := StateT Progress (Except Refusal)

def refuse {α : Type} : Reader α := throw .malformed

/-- The next token. A dangling backslash is refused as soon as it comes next. -/
def peek : Reader (Option Token) := return (← get).rest.head?

def checkNext : Reader Unit := do
  if (← peek) = some .dangling then refuse

def advance : Reader (Option Token) := do
  let token ← peek
  modify fun p => { p with rest := p.rest.drop 1 }
  checkNext
  return token

def accept (c : Char) : Reader Bool := do
  if (← peek) = some (.plain c) then
    let _ ← advance
    return true
  else return false

def require (c : Char) : Reader Unit := do
  if !(← accept c) then refuse

/-- Up to `limit` plain characters of a class. -/
def readWhile (test : Char → Bool) : (limit : Nat) → Reader (List Char)
  | 0 => return []
  | limit + 1 => do
      match ← peek with
      | some (.plain c) =>
          if test c then
            let _ ← advance
            return c :: (← readWhile test limit)
          else return []
      | _ => return []

/-- A non-empty text up to `stop`. -/
def readUntil (stop : Char) : (limit : Nat) → Reader (List Char)
  | 0 => refuse
  | limit + 1 => do
      match ← advance with
      | some (.plain c) => if c = stop then return [] else return c :: (← readUntil stop limit)
      | some token => return token.text ++ (← readUntil stop limit)
      | none => refuse

def readName (stop : Char) : Reader (List Char) := do
  let name ← readUntil stop ((← get).rest.length + 1)
  if name.isEmpty then refuse
  return name

end Dialogue.Regex
