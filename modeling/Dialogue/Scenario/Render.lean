import Dialogue.Scenario.Basic
import Dialogue.Template
import Dialogue.Text.Case
/-!
Nodes as they are shown: the templates that the user sees are filled in, all else stays.
-/
namespace Dialogue.Node

/-- Fills in a field if it says yes. -/
def fillField (slots : Slots) (encodeQuery : Bool) (name : String) (data : Mapping Value) :
    Except Fault (Mapping Value) :=
  match Mapping.get? data name with
  | some v =>
      if v.truthy then do
        return Mapping.set data name (.text (← Template.fill v (.object slots) encodeQuery))
      else .ok data
  | none => .ok data

def fillOption (slots : Slots) (v : Value) : Except Fault Value :=
  match v with
  | .text s => do return .text (← Template.fillText s (.object slots) false)
  | _ => .ok v

def fillOptions (slots : Slots) (data : Mapping Value) : Except Fault (Mapping Value) :=
  match Mapping.get? data "options" with
  | some (.list options) => do
      return Mapping.set data "options" (.list (← options.mapM (fillOption slots)))
  | _ => .ok data

/-- Label, placeholder and options of a form element. -/
def fillElement (slots : Slots) (element : Value) : Except Fault Value :=
  match element with
  | .object fields => do
      let labelled ← fillField slots false "label" fields
      return .object (← fillOptions slots (← fillField slots false "placeholder" labelled))
  | _ => .ok element

def fillReply (slots : Slots) (reply : Value) : Except Fault Value :=
  match reply with
  | .object fields => do return .object (← fillField slots false "display" fields)
  | _ => .ok reply

/-- Fills in the items of a list field. Texts and objects have no items to fill in. -/
def fillItems (fill : Value → Except Fault Value) (name : String) (data : Mapping Value) :
    Except Fault (Mapping Value) :=
  match Mapping.get? data name with
  | some (.list items) => do return Mapping.set data name (.list (← items.mapM fill))
  | some v => if v.truthy then do let _ ← v.elements; return data else .ok data
  | none => .ok data

def fillForm (slots : Slots) (data : Mapping Value) : Except Fault (Mapping Value) := do
  fillItems (fillElement slots) "elements" (← fillField slots false "title" data)

def fillKind (slots : Slots) (kind : Option NodeKind) (data : Mapping Value) :
    Except Fault (Mapping Value) :=
  match kind with
  | some .iframe => fillField slots true "url" data
  | some .form => fillForm slots data
  | some .branch => fillItems (fillReply slots) "replies" data
  | _ => .ok data

/-- The node as it is shown under the given slots. -/
def render (node : Node) (slots : Slots) : Except Fault Node := do
  let data ← fillField slots false "content" (Value.storableFields node.data)
  return { node with data := ← fillKind slots node.kind? data }

def toValue (node : Node) : Value :=
  .object [("id", .text node.id), ("type", .text node.type), ("data", .object node.data)]

end Dialogue.Node

/-!
Shortcuts: items in a tree of categories whose title, typed by the user, stands for an action.
-/
namespace Dialogue

open Dialogue.Text

structure Action where
  type : String
  value : String
  deriving DecidableEq, Repr

namespace Shortcut

/-- What a search finds first: an action, or an item whose action cannot be used. -/
inductive Finding where
  | action (a : Action)
  | unusable
  deriving DecidableEq, Repr

/-- Titles compare without regard to case and to blanks around them. -/
def plainTitle (cs : List Char) : List Char := lower (strip cs)

def actionOf? (v : Value) : Option Action :=
  match v with
  | .object fields =>
      match Mapping.get? fields "type", Mapping.get? fields "value" with
      | some (.text type), some (.text value) => some ⟨type, value⟩
      | _, _ => none
  | _ => none

def ofItem? (needle : List Char) (item : Value) : Except Fault (Option Finding) := do
  let title ← ((← item.field "title").getD (.text "")).display
  if plainTitle title.toList ≠ needle then return none
  match actionOf? ((← item.field "action").getD .null) with
  | some a => return some (.action a)
  | none => return some .unusable

/-- The first item for which `test` finds something. -/
def firstFinding (test : Value → Except Fault (Option Finding)) :
    List Value → Except Fault (Option Finding)
  | [] => .ok none
  | v :: rest => do
      match ← test v with
      | some finding => return some finding
      | none => firstFinding test rest

/-- Searches the elements of a field that may be missing or say no. -/
def inField (name : String) (test : Value → Except Fault (Option Finding)) (v : Value) :
    Except Fault (Option Finding) := do
  let inner := (← v.field name).getD .null
  if inner.truthy then firstFinding test (← inner.elements) else return none

/-- The action of the first item with the title `text`. -/
def find (categories : List Value) (text : String) : Except Fault (Option Action) := do
  let needle := plainTitle text.toList
  if needle.isEmpty then return none
  let search := inField "subCategories" (inField "items" (ofItem? needle))
  match ← firstFinding search categories with
  | some (.action a) => return some a
  | _ => return none

end Shortcut

end Dialogue
