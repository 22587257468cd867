import Dialogue.Yaml.Node
import Dialogue.Yaml.Scalar
import Dialogue.Decimal.Layout
/-!
Reading what a document holds.
-/
namespace Dialogue.Yaml

/-- The key that a value without parts is. -/
def keyOf (v : Authored) : Except Fault Authored.Key :=
  match v with
  | .plain (.text s) => .ok (Authored.textKey s)
  | .plain .null => .ok ("null", false)
  | .plain (.bool b) => .ok (if b then "true" else "false", false)
  | .plain (.int n) => .ok (toString n, false)
  | .plain (.float x) => .ok (Decimal.plain.print x, false)
  | .time text => .ok (text, false)
  | _ => refuse

/-- What a mapping stands for where a scalar is asked for: the value of its key `=`. -/
def standIn? (entries : List (Node × Node)) : Option String :=
  match entries.find? fun entry => entry.1.tag = .value with
  | some (_, .scalar _ text) => some text
  | _ => none

/-- The fields of a mapping: those of the mappings that it merges in, and its own. -/
structure Fields where
  merged : Authored.Fields
  own : Authored.Fields

/-- A mapping's own fields take precedence. -/
def Fields.all (fields : Fields) : Authored.Fields := fields.merged ++ fields.own

/-- Fields of which a later one of a key wins. -/
def settle (fields : Authored.Fields) : Authored :=
  .object (fields.foldl (fun settled field => Authored.set settled field.1 field.2) [])

/-- The key of a field; no collection is one. -/
def key : Node → Except Fault Authored.Key
  | .scalar .value text => .ok (Authored.textKey text)
  | .scalar tag text => do keyOf (← scalarValue tag text)
  | .sequence _ _ => refuse
  | .mapping tag entries =>
      match standIn? entries with
      | some text => do keyOf (← scalarValue tag text)
      | none => refuse

mutual

def value : Node → Except Fault Authored
  | .scalar tag text => scalarValue tag text
  | .sequence tag items =>
      match tag with
      | .sequence => do return .list (← values items)
      | .pairs => do return .list (← pairs items)
      | _ => refuse
  | .mapping tag entries =>
      if tag = .mapping then do return settle (← fields entries).all
      else
        match standIn? entries with
        | some text => scalarValue tag text
        | none => refuse

def values : List Node → Except Fault (List Authored)
  | [] => .ok []
  | item :: items => do return (← value item) :: (← values items)

/-- Mappings with one field each as lists of key and value. -/
def pairs : List Node → Except Fault (List Authored)
  | [] => .ok []
  | .mapping _ [(name, v)] :: items => do
      return .list [← value name, ← value v] :: (← pairs items)
  | _ => refuse

def fields : List (Node × Node) → Except Fault Fields
  | [] => .ok ⟨[], []⟩
  | (name, v) :: entries =>
      if name.tag = .merge then do
        let first ← mergedFields v
        let more ← fields entries
        return { more with merged := first ++ more.merged }
      else do
        let key ← key name
        let first ← value v
        let more ← fields entries
        return { more with own := (key, first) :: more.own }

/-- The fields that a mapping, or each of a list of mappings, gives to the one it is merged into. -/
def mergedFields : Node → Except Fault Authored.Fields
  | .scalar _ _ => refuse
  | .sequence _ items => itemFields items
  | .mapping _ entries => do return (← fields entries).all

/-- Earlier mappings take precedence. -/
def itemFields : List Node → Except Fault Authored.Fields
  | [] => .ok []
  | .mapping _ entries :: items => do
      let first ← fields entries
      return (← itemFields items) ++ first.all
  | _ => refuse

end

/-- Characters that may stand in a document: no controls but tabs and line breaks. -/
def isAllowed (c : Char) : Bool :=
  c = '\t' || c = '\n' || c = '\u0085' || (' ' ≤ c && c ≤ '~') ||
    ('\u00a0' ≤ c && c ≠ '\ufffe' && c ≠ '\uffff')

/-- Every way to end a line becomes a line break. -/
def unifyBreaks : List Char → List Char
  | '\r' :: '\n' :: cs => '\n' :: unifyBreaks cs
  | '\r' :: cs => '\n' :: unifyBreaks cs
  | c :: cs => c :: unifyBreaks cs
  | [] => []

/-- What a document holds; an empty one is null. -/
def read (text : String) : Except Fault Authored := do
  let cs := unifyBreaks text.toList
  if !cs.all isAllowed then refuse
  match ← compose (← tokens cs) with
  | some node => value node
  | none => return .plain .null

end Dialogue.Yaml
