import Dialogue.Value.Convert
import Dialogue.Text.Scan
/-!
Paths into values: names between dots, and indices and quoted keys in brackets, as in
`order.items[0]["unit price"]`.
-/
namespace Dialogue

open Dialogue.Text

/-- One step of a path as it is written. -/
inductive Step where
  | index (negative : Bool) (digits : List Char)
  | key (name : List Char)
  deriving DecidableEq, Repr

/-- One step of a path as it is taken. -/
inductive Key where
  | index (n : Int)
  | name (s : String)
  deriving DecidableEq, Repr

namespace Step

/-- A backslash before a quote or a backslash is dropped; before anything else it stays. -/
def unescape (c : Char) : List Char :=
  if c = singleQuote || c = doubleQuote || c = '\\' then [c] else ['\\', c]

/-- A quoted key from after its opening quote, and the rest after its closing quote. -/
def quoted? (mark : Char) : List Char → Option (List Char × List Char)
  | [] => none
  | ['\\'] => none
  | '\\' :: c :: cs =>
      if c = '\n' then none
      else (quoted? mark cs).map fun (name, rest) => (unescape c ++ name, rest)
  | c :: cs =>
      if c = mark then some ([], cs)
      else (quoted? mark cs).map fun (name, rest) => (c :: name, rest)

/-- An index with an optional minus sign, or a quoted key. -/
def inside? (cs : List Char) : Option (Step × List Char) :=
  match cs with
  | [] => none
  | c :: after =>
      if c = singleQuote || c = doubleQuote then
        (quoted? c after).map fun (name, rest) => (.key name, rest)
      else
        let negative := c = '-'
        let body := if negative then after else cs
        let digits := body.takeWhile isDecimal
        if digits.isEmpty then none
        else some (.index negative digits, body.dropWhile isDecimal)

/-- A step in brackets, blanks aside, from after the opening bracket. -/
def bracketed? (cs : List Char) : Option (Step × List Char) := do
  let (step, rest) ← inside? (stripLeft cs)
  match stripLeft rest with
  | ']' :: after => some (step, after)
  | _ => none

def isNameChar (c : Char) : Bool := c ≠ '.' && c ≠ '[' && c ≠ ']'

/-- The step at the front of a path. -/
def pattern : Pattern Step := fun _ cs =>
  match cs with
  | '[' :: after => (bracketed? after).map fun (step, rest) => (step, cs.length - rest.length)
  | _ =>
      let name := cs.takeWhile isNameChar
      if name.isEmpty then none else some (.key (strip name), name.length)

def toKey : Step → Except Fault Key
  | .index negative digits => do return .index (← Numeral.ofSignedDigits negative digits)
  | .key name => .ok (.name (String.ofList name))

end Step

/-- The keys that a path names; what fits no step is passed over. -/
def pathKeys (path : String) : Except Fault (List Key) :=
  (findAll Step.pattern path.toList).mapM Step.toKey

namespace Value

/-- The place in a list that a key stands for; a name of digits counts as an index. -/
def listIndex? : Key → Except Fault (Option Int)
  | .index n => .ok (some n)
  | .name s =>
      if s ≠ "" && s.toList.all isDigit then do return some (← Numeral.parse s.toList)
      else .ok none

/-- What one key leads to, null if it leads nowhere. -/
def child (v : Value) (key : Key) : Except Fault (Option Value) :=
  match v with
  | .list items => do
      match ← listIndex? key with
      | some n => return if 0 ≤ n then items[n.toNat]? else none
      | none => return none
  | .object fields =>
      match key with
      | .name s => .ok (Mapping.get? fields s)
      | .index n => do return Mapping.get? fields (← Numeral.print n)
  | _ => .ok none

/-- What a list of keys leads to, one after the other. -/
def walk (v : Value) : List Key → Except Fault (Option Value)
  | [] => .ok (some v)
  | key :: keys => do
      match ← v.child key with
      | some next => walk next keys
      | none => return none

/-- Paths start at lists and objects. -/
def isBranch : Value → Bool
  | .list _ | .object _ => true
  | _ => false

/-- The value at a path, null if there is none. -/
def lookup (data : Value) (path : String) : Except Fault Value :=
  if path = "" || !data.isBranch then .ok .null
  else do
    match ← pathKeys path with
    | [] => return .null
    | keys => return (← data.walk keys).getD .null

/-- A path that is no text leads nowhere. -/
def lookupAt (data path : Value) : Except Fault Value :=
  match path with
  | .text s => data.lookup s
  | _ => .ok .null

end Value

end Dialogue
