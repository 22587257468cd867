import Dialogue.Yaml.Tag
import Dialogue.Yaml.Token
import Dialogue.Mapping
/-!
The tree of a document. Tags are settled, and an alias is the node that its name stands for.
-/
namespace Dialogue.Yaml

inductive Node where
  | scalar (tag : Tag) (text : String)
  | sequence (tag : Tag) (items : List Node)
  | mapping (tag : Tag) (entries : List (Node × Node))

/-- What is left to read, what the handles of tags stand for, and the nodes that have a name. A node
has no value there before it is complete. -/
structure Reading where
  rest : List Token
  handles : Mapping String
  named : Mapping (Option Node)

/-- A part of a document, and what is left. -/
abbrev Parse (α : Type) := StateT Reading (Except Fault) α

def Node.tag : Node → Tag
  | .scalar tag _ | .sequence tag _ | .mapping tag _ => tag

namespace Parse

def peek : Parse (Option Token) := do return (← get).rest.head?

def skip : Parse Unit := modify fun r => { r with rest := r.rest.drop 1 }

/-- Passes over a token if it is next. -/
def skipIf (token : Token) : Parse Bool := do
  if (← peek) = some token then
    skip
    return true
  else return false

def fail {α : Type} : Parse α := throw .invalidYaml

def expect (token : Token) : Parse Unit := do
  if !(← skipIf token) then fail

/-- One of some tokens is next. -/
def isNext (tokens : List Token) : Parse Bool := do return (← peek).any tokens.contains

end Parse

open Parse

/-- The tag of a node, and its name. -/
structure Properties where
  tag : Option WrittenTag
  anchor : Option String
  deriving DecidableEq, Repr

def parseTag : Parse (Option WrittenTag) := do
  match ← peek with
  | some (.tag tag) =>
      skip
      return some tag
  | _ => return none

def parseAnchor : Parse (Option String) := do
  match ← peek with
  | some (.anchor name) =>
      skip
      return some name
  | _ => return none

/-- Tag and anchor in either order. -/
def parseProperties : Parse Properties := do
  match ← parseAnchor with
  | some name => return ⟨← parseTag, some name⟩
  | none =>
      match ← parseTag with
      | some tag => return ⟨some tag, ← parseAnchor⟩
      | none => return ⟨none, none⟩

/-- A tag in full; the exclamation mark alone is the tag of nodes that show it by themselves. -/
def tagName? (tag : Option WrittenTag) : Parse (Option String) := do
  match tag with
  | none => return none
  | some ⟨none, suffix⟩ => return if suffix = "!" then none else some suffix
  | some ⟨some handle, suffix⟩ =>
      match Mapping.get? (← get).handles handle with
      | none => fail
      | some lead => return if lead ++ suffix = "!" then none else some (lead ++ suffix)

def nothing : Node := .scalar .null ""

def collectionTag (name : Option String) (usual : Tag) : Tag := (name.map Tag.ofName).getD usual

/-- A scalar without tag shows what it is if it is plain or has an exclamation mark. -/
def scalarTag (name : Option String) (marked : Bool) (text : String) (plain : Bool) : Tag :=
  match name with
  | some name => Tag.ofName name
  | none => if plain || marked then Tag.implied text else .text

/-- Notes the name of a node; no two nodes have the same. -/
def openName (anchor : Option String) : Parse Unit := do
  match anchor with
  | none => pure ()
  | some name =>
      if Mapping.has (← get).named name then fail
      modify fun r => { r with named := Mapping.set r.named name none }

def closeName (anchor : Option String) (node : Node) : Parse Node := do
  match anchor with
  | none => return node
  | some name =>
      modify fun r => { r with named := Mapping.set r.named name (some node) }
      return node

/-- The node of a name; it has to be complete. -/
def nodeNamed (name : String) : Parse Node := do
  match Mapping.get? (← get).named name with
  | some (some node) => return node
  | _ => fail

/-- Which collections may start a node: those of blocks, and sequences without indentation. -/
inductive Place where
  | flow
  | block
  | blockValue
  deriving DecidableEq, Repr

mutual

def parseNode : (fuel : Nat) → Place → Parse Node
  | 0, _ => fail
  | fuel + 1, place => do
      match ← peek with
      | some (.alias name) =>
          skip
          nodeNamed name
      | _ =>
          let properties ← parseProperties
          let name ← tagName? properties.tag
          openName properties.anchor
          let node ← parseContent fuel place name properties
          closeName properties.anchor node

/-- What follows tag and anchor. -/
def parseContent : (fuel : Nat) → Place → (name : Option String) → Properties → Parse Node
  | 0, _, _, _ => fail
  | fuel + 1, place, name, properties => do
      match ← peek with
      | some (.scalar text plain) =>
          skip
          return .scalar (scalarTag name properties.tag.isSome text plain) text
      | some .flowSequence =>
          skip
          return .sequence (collectionTag name .sequence) (← parseFlowItems fuel true)
      | some .flowMapping =>
          skip
          return .mapping (collectionTag name .mapping) (← parseFlowEntries fuel true)
      | token =>
          if token = some .item && place = .blockValue then
            return .sequence (collectionTag name .sequence) (← parseBareItems fuel)
          else if token = some .blockSequence && place ≠ .flow then
            skip
            return .sequence (collectionTag name .sequence) (← parseItems fuel)
          else if token = some .blockMapping && place ≠ .flow then
            skip
            return .mapping (collectionTag name .mapping) (← parseEntries fuel)
          else if properties.tag.isSome || properties.anchor.isSome then
            return .scalar (scalarTag name properties.tag.isSome "" (name.isNone)) ""
          else fail

/-- A node, or nothing before one of some tokens. -/
def parseUnless : (fuel : Nat) → List Token → Place → Parse Node
  | 0, _, _ => fail
  | fuel + 1, ends, place => do
      if ← isNext ends then return nothing
      else parseNode fuel place

def parseItems : (fuel : Nat) → Parse (List Node)
  | 0 => fail
  | fuel + 1 => do
      if ← skipIf .item then
        let item ← parseUnless fuel [.item, .blockEnd] .block
        return item :: (← parseItems fuel)
      else
        expect .blockEnd
        return []

/-- The items of a sequence that is indented no further than the key it belongs to. -/
def parseBareItems : (fuel : Nat) → Parse (List Node)
  | 0 => fail
  | fuel + 1 => do
      if ← skipIf .item then
        let item ← parseUnless fuel [.item, .key, .value, .blockEnd] .block
        return item :: (← parseBareItems fuel)
      else return []

def parseEntries : (fuel : Nat) → Parse (List (Node × Node))
  | 0 => fail
  | fuel + 1 => do
      if ← skipIf .key then
        let ends := [Token.key, .value, .blockEnd]
        let key ← parseUnless fuel ends .blockValue
        let value ←
          if ← skipIf .value then parseUnless fuel ends .blockValue
          else pure nothing
        return (key, value) :: (← parseEntries fuel)
      else
        expect .blockEnd
        return []

/-- A key of a flow collection and its value, after the token for the key. -/
def parseFlowPair : (fuel : Nat) → (closing : Token) → Parse (Node × Node)
  | 0, _ => fail
  | fuel + 1, closing => do
      let key ← parseUnless fuel [.value, .comma, closing] .flow
      let value ←
        if ← skipIf .value then parseUnless fuel [.comma, closing] .flow
        else pure nothing
      return (key, value)

/-- The items of a flow sequence; a pair among them is a mapping of its own. -/
def parseFlowItems : (fuel : Nat) → (first : Bool) → Parse (List Node)
  | 0, _ => fail
  | fuel + 1, first => do
      if ← skipIf .flowSequenceEnd then return []
      else
        if !first then expect .comma
        if ← skipIf .key then
          let pair ← parseFlowPair fuel .flowSequenceEnd
          return .mapping .mapping [pair] :: (← parseFlowItems fuel false)
        else if ← skipIf .flowSequenceEnd then return []
        else
          let item ← parseNode fuel .flow
          return item :: (← parseFlowItems fuel false)

def parseFlowEntries : (fuel : Nat) → (first : Bool) → Parse (List (Node × Node))
  | 0, _ => fail
  | fuel + 1, first => do
      if ← skipIf .flowMappingEnd then return []
      else
        if !first then expect .comma
        if ← skipIf .key then
          let pair ← parseFlowPair fuel .flowMappingEnd
          return pair :: (← parseFlowEntries fuel false)
        else if ← skipIf .flowMappingEnd then return []
        else
          let key ← parseNode fuel .flow
          return (key, nothing) :: (← parseFlowEntries fuel false)

end

def usualHandles : Mapping String := [("!", "!"), ("!!", commonLead)]

/-- Directives: one version at most, and what the handles of tags stand for. -/
def parseDirectives : (fuel : Nat) → (versioned : Bool) → (handles : Mapping String) →
    Parse (Mapping String)
  | 0, _, _ => fail
  | fuel + 1, versioned, handles => do
      match ← peek with
      | some (.directive directive) =>
          skip
          match directive with
          | .version major =>
              if versioned || major ≠ 1 then fail
              else parseDirectives fuel true handles
          | .tag handle lead =>
              if Mapping.has handles handle then fail
              else parseDirectives fuel versioned (Mapping.set handles handle lead)
          | .other => parseDirectives fuel versioned handles
      | _ => return Mapping.update usualHandles handles

/-- The node of a document that holds anything but a mark of its start. -/
def parseDocument (fuel : Nat) : Parse (Option Node) := do
  match ← peek with
  | none => return none
  | some (.directive _) | some .documentStart =>
      let handles ← parseDirectives fuel false []
      modify fun r => { r with handles := handles }
      expect .documentStart
      let isEmpty : Option Token → Bool
        | none | some (.directive _) | some .documentStart | some .documentEnd => true
        | _ => false
      if isEmpty (← peek) then return some nothing
      else return some (← parseNode fuel .block)
  | some _ => return some (← parseNode fuel .block)

def skipDocumentEnds : List Token → List Token
  | .documentEnd :: rest => skipDocumentEnds rest
  | rest => rest

/-- The node of the only document, `none` if there is no document at all. -/
def compose (tokens : List Token) : Except Fault (Option Node) := do
  let (node, reading) ← (parseDocument (6 * tokens.length + 8)).run ⟨tokens, usualHandles, []⟩
  if (skipDocumentEnds reading.rest).isEmpty then return node else refuse

end Dialogue.Yaml
