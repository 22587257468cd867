import Dialogue.Value.Path
import Dialogue.Url.Percent
/-!
Templates: texts with placeholders for slots, `{path}` or `{{path}}`. Filling in is a single pass; a
placeholder without a value stays as it is written.
-/
namespace Dialogue

open Dialogue.Text

namespace Template

/-- A placeholder as it is written, and the slot path it names. -/
structure Placeholder where
  written : List Char
  path : List Char
  afterMark : Bool
  deriving DecidableEq, Repr

def isBrace (c : Char) : Bool := c = '\x7b' || c = '\x7d'

/-- Characters that end a path in single braces. -/
def endsPath (c : Char) : Bool :=
  isBrace c || isBlank c || c = doubleQuote || c = singleQuote || c = ':' || c = ','

/-- A run of characters without `stop`, which is not empty and is followed by `closing`. -/
def run? (stop : Char → Bool) (closing : List Char) (cs : List Char) : Option (List Char) :=
  let run := cs.takeWhile fun c => !stop c
  if run.isEmpty || !closing.isPrefixOf (cs.drop run.length) then none else some run

def double? : List Char → Option (List Char)
  | '\x7b' :: '\x7b' :: cs => run? isBrace ['\x7d', '\x7d'] cs
  | _ => none

def single? : List Char → Option (List Char)
  | '\x7b' :: cs => run? endsPath ['\x7d'] cs
  | _ => none

/-- A placeholder that directly follows `=` or `&` stands where a query value may stand. -/
def isMark (before : Option Char) : Bool := before = some '=' || before = some '&'

def placeholder : Pattern Placeholder := fun before cs =>
  match double? cs with
  | some path => some (⟨cs.take (path.length + 4), strip path, isMark before⟩, path.length + 4)
  | none =>
      (single? cs).map fun path =>
        (⟨cs.take (path.length + 2), strip path, isMark before⟩, path.length + 2)

/-- Query values that are percent-encoded already stay as they are. -/
def encodeQueryValue (cs : List Char) : List Char :=
  if Url.decode cs ≠ cs then cs else Url.encode (fun c => "!*'()".toList.contains c) cs

def Placeholder.fill (p : Placeholder) (encodeQuery : Bool) (data : Value) :
    Except Fault (List Char) := do
  let value ← data.lookup (String.ofList p.path)
  if value.isNull then return p.written
  let text := (← value.toText).toList
  return if encodeQuery && p.afterMark then encodeQueryValue text else text

/-- Braces written as `%7B%7B` and `%7D%7D` count as braces. -/
def plainBraces (cs : List Char) : List Char :=
  replaceAll "%7D%7D".toList ['\x7d', '\x7d'] (replaceAll "%7B%7B".toList ['\x7b', '\x7b'] cs)

def fillParts (encodeQuery : Bool) (data : Value) :
    List (Char ⊕ Placeholder) → Except Fault (List Char)
  | [] => .ok []
  | .inl c :: rest => do return c :: (← fillParts encodeQuery data rest)
  | .inr p :: rest => do
      let text ← p.fill encodeQuery data
      return text ++ (← fillParts encodeQuery data rest)

/-- The text with its placeholders filled in. With `encodeQuery` the values of placeholders that
directly follow `=` or `&` are percent-encoded. -/
def fillText (template : String) (data : Value) (encodeQuery : Bool) : Except Fault String := do
  let parts := parts placeholder (plainBraces template.toList)
  return String.ofList (← fillParts encodeQuery data parts)

/-- A template that is no text is shown as its text. -/
def fill (template data : Value) (encodeQuery : Bool) : Except Fault String :=
  match template with
  | .text s => fillText s data encodeQuery
  | v => v.toText

mutual

/-- Fills in every text inside a value. -/
def fillValue (data : Value) : Value → Except Fault Value
  | .text s => do return .text (← fillText s data false)
  | .list items => do return .list (← fillItems data items)
  | .object fields => do return .object (← fillFields data fields)
  | v => .ok v

def fillItems (data : Value) : List Value → Except Fault (List Value)
  | [] => .ok []
  | v :: vs => do return (← fillValue data v) :: (← fillItems data vs)

def fillFields (data : Value) : List (String × Value) → Except Fault (List (String × Value))
  | [] => .ok []
  | (k, v) :: rest => do return (k, ← fillValue data v) :: (← fillFields data rest)

end

end Template

end Dialogue
