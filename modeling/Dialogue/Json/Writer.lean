import Dialogue.Numeral
import Dialogue.Decimal.Layout
/-!
JSON text of values. Characters outside ASCII are written as they are.
-/
namespace Dialogue.Json

/-- What stands between two entries, between a key and its value, and before each entry of a list
or an object, and before its end, at a depth. -/
structure Style where
  comma : List Char
  colon : List Char
  line : (depth : Nat) → List Char

def compact : Style := ⟨[','], [':'], fun _ => []⟩

def spaced : Style := ⟨[',', ' '], [':', ' '], fun _ => []⟩

/-- Each entry on a line of its own. -/
def indented : Style := ⟨[','], [':', ' '], fun depth => '\n' :: List.replicate (2 * depth) ' '⟩

def hexDigit (n : Nat) : Char := if n < 10 then Char.ofNat (48 + n) else Char.ofNat (87 + n)

/-- A character inside a quoted text. -/
def escape (c : Char) : List Char :=
  if c = '"' then ['\\', '"']
  else if c = '\\' then ['\\', '\\']
  else if c = '\n' then ['\\', 'n']
  else if c = '\r' then ['\\', 'r']
  else if c = '\t' then ['\\', 't']
  else if c.toNat = 8 then ['\\', 'b']
  else if c.toNat = 12 then ['\\', 'f']
  else if c.toNat < 32 then ['\\', 'u', '0', '0', hexDigit (c.toNat / 16), hexDigit (c.toNat % 16)]
  else [c]

def quote (s : String) : List Char := '"' :: (s.toList.flatMap escape ++ ['"'])

/-- The end of a list or an object; an empty one ends where it begins. -/
def Style.closing {α : Type} (style : Style) (depth : Nat) (entries : List α) : List Char :=
  if entries.isEmpty then [] else style.line depth

mutual

def writeValue (style : Style) (depth : Nat) : Value → Except Fault (List Char)
  | .null => .ok "null".toList
  | .bool b => .ok (if b then "true".toList else "false".toList)
  | .int n => do return (← Numeral.print n).toList
  | .float x => .ok (Decimal.json.print x).toList
  | .text s => .ok (quote s)
  | .list items => do
      return '[' :: (← writeItems style (depth + 1) items) ++ style.closing depth items ++ [']']
  | .object fields => do
      return '{' :: (← writeFields style (depth + 1) fields) ++ style.closing depth fields ++ ['}']

def writeItems (style : Style) (depth : Nat) : List Value → Except Fault (List Char)
  | [] => .ok []
  | [v] => do return style.line depth ++ (← writeValue style depth v)
  | v :: vs => do
      return style.line depth ++ (← writeValue style depth v) ++ style.comma ++
        (← writeItems style depth vs)

def writeFields (style : Style) (depth : Nat) :
    List (String × Value) → Except Fault (List Char)
  | [] => .ok []
  | [(k, v)] => do
      return style.line depth ++ quote k ++ style.colon ++ (← writeValue style depth v)
  | (k, v) :: rest => do
      return style.line depth ++ quote k ++ style.colon ++ (← writeValue style depth v) ++
        style.comma ++ (← writeFields style depth rest)

end

def write (style : Style) (v : Value) : Except Fault String := do
  return String.ofList (← writeValue style 0 v)

mutual

/-- Whether all floats in a value are finite. -/
def isFinite : Value → Bool
  | .float x => x.isFinite
  | .list items => areFinite items
  | .object fields => haveFinite fields
  | _ => true

def areFinite : List Value → Bool
  | [] => true
  | v :: vs => isFinite v && areFinite vs

def haveFinite : List (String × Value) → Bool
  | [] => true
  | (_, v) :: rest => isFinite v && haveFinite rest

end

/-- Refuses NaN and infinities, for which JSON proper has no text. -/
def writeFinite (style : Style) (v : Value) : Except Fault String :=
  if isFinite v then write style v else .error (.malformed .body)

end Dialogue.Json
