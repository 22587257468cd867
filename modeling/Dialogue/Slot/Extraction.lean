import Dialogue.Json.Reader
import Dialogue.Text.Fold
/-!
Slots while a node writes them.
-/
namespace Dialogue.Slot

/-- A name that is no text can be written to, but leaves no usable slots. -/
structure Draft where
  slots : Slots
  misnamed : Bool

namespace Draft

def ofSlots (slots : Slots) : Draft := ⟨slots, false⟩

def store (draft : Draft) (name value : Value) : Except Fault Draft :=
  match name with
  | .text s => .ok { draft with slots := Mapping.set draft.slots s value }
  | other =>
      if other.hashable then .ok { draft with misnamed := true }
      else .error (.clash (.unhashable other.kind))

/-- What `changes` writes, over what is there. -/
def update (draft changes : Draft) : Draft :=
  ⟨Mapping.update draft.slots changes.slots, draft.misnamed || changes.misnamed⟩

def finish (draft : Draft) : Except Fault Slots :=
  if draft.misnamed then .error .invalidRecord else .ok draft.slots

end Draft

end Dialogue.Slot

/-!
Reply and slots from a completion that holds a JSON object, with or without a code fence around it.
-/
namespace Dialogue.Slot

open Dialogue.Text

def fence : List Char := ['`', '`', '`']

/-- Takes the letters of `word` off the front, whatever their case. -/
def dropWord (word cs : List Char) : List Char :=
  let front := cs.take word.length
  if front.length = word.length && (word.zip front).all fun (a, b) => (caseVariants a).contains b
  then cs.drop word.length else cs

/-- Drops an opening fence, which may name its language, and the blanks after it. -/
def dropOpeningFence (cs : List Char) : List Char :=
  if fence.isPrefixOf cs then stripLeft (dropWord "json".toList (cs.drop 3)) else cs

/-- Drops a closing fence and the blanks before it. -/
def dropClosingFence (cs : List Char) : List Char :=
  if fence.isSuffixOf cs then stripRight (cs.take (cs.length - 3)) else cs

def unfence (cs : List Char) : List Char := dropClosingFence (dropOpeningFence (strip cs))

structure Extraction where
  reply : String
  slots : Slots

/-- What an object says: its `response` if it is a text, and its `slots` if they are an object. -/
def extractFields (output : String) (fields : Mapping Value) : Extraction :=
  { reply := match Mapping.get? fields "response" with
      | some (.text s) => s
      | _ => output
    slots := match Mapping.get? fields "slots" with
      | some (.object slots) => slots
      | _ => [] }

/-- Output that holds no object is the reply itself. -/
def extract (output : String) : Extraction :=
  match Json.read (String.ofList (unfence output.toList)) with
  | .ok (.object fields) => extractFields output fields
  | _ => ⟨output, []⟩

end Dialogue.Slot
