import Dialogue.Http.Response
import Dialogue.Slot.Extraction
import Dialogue.Template
import Dialogue.Text.Case
import Dialogue.Url.Percent
import Dialogue.Value.Convert
import Dialogue.Json.Reader
/-!
The requests that api nodes describe: their texts are templates, and a mapping names the slots that
take parts of the answer.
-/
namespace Dialogue.Node

open Dialogue.Text

/-- A request that is ready to be sent, the slots it writes of itself, and the mapping for its
answer. -/
structure Prepared where
  request : Http.Request
  written : Slots
  mapping : Value

namespace Prepared

def bodySlot : String := "_lastApiRequestBody"

def fieldOf (config : Mapping Value) (name : String) : Value :=
  (Mapping.get? config name).getD .null

def method (config : Mapping Value) : Except Fault String :=
  match (fieldOf config "method").orElse (.text "GET") with
  | .text s => .ok (String.ofList (upper s.toList))
  | other => .error (.clash (.lacksFields other.kind))

/-- The parameters that say something, with their values filled in. -/
def params (slots : Slots) : Mapping Value → Except Fault (List Url.Param)
  | [] => .ok []
  | (name, template) :: rest => do
      let value := (← Template.fill template (.object slots) false).toList
      let others ← params slots rest
      return if value.isEmpty then others else (name.toList, value) :: others

def queryParams (method : String) (config : Mapping Value) (slots : Slots) :
    Except Fault (List Url.Param) :=
  match fieldOf config "params" with
  | .object fields => if method = "GET" then params slots fields else .ok []
  | _ => .ok []

/-- The URL with parameters after those that it has already. -/
def addParams (url : List Char) (params : List Url.Param) : List Char :=
  if params.isEmpty then url
  else url ++ (if url.contains '?' then '&' else '?') :: Url.encodeQuery params

/-- Slashes at the end of a base do not count. -/
def trimBase (base : String) : String :=
  String.ofList (base.toList.reverse.dropWhile (· = '/')).reverse

def addBase (base : String) (url : List Char) : List Char :=
  if url.head? = some '/' then base.toList ++ url else url

def url (base method : String) (config : Mapping Value) (slots : Slots) : Except Fault String := do
  let template := (Mapping.get? config "url").getD (.text "")
  let plain := (← Template.fill template (.object slots) true).toList
  return String.ofList (addBase base (addParams plain (← queryParams method config slots)))

/-- Headers that are written as JSON. -/
def readHeaders (template : String) (slots : Slots) : Except Fault Value := do
  Json.read (← Template.fillText template (.object slots) false)

/-- Text that cannot be read makes the call fail with `complaint`; other faults stay. -/
def failCall {α : Type} (complaint : String) (r : Except Fault α) : Except Fault α :=
  r.mapError fun fault =>
    if fault.isUnreadable then .apiCall (complaint ++ ": " ++ fault.message) else fault

def displayFields : Mapping Value → Except Fault (Mapping String)
  | [] => .ok []
  | (name, v) :: rest => do return (name, ← v.display) :: (← displayFields rest)

def headers (raw : Value) (slots : Slots) : Except Fault (Mapping String) := do
  if !raw.truthy then return []
  let read ← match raw with
    | .text s => failCall "Invalid headers JSON" (readHeaders s slots)
    | v => Template.fillValue (.object slots) v
  match read with
  | .object fields => displayFields fields
  | _ => throw (.apiCall "Headers must be a JSON object")

/-- The body, if there is one, and its text for the slot that keeps it. -/
def body (method : String) (raw : Value) (slots : Slots) : Except Fault (Value × Slots) := do
  if method = "GET" || raw.isNull || raw.isText "" then return (.null, [])
  let filled ← Template.fillValue (.object slots) raw
  let text ← match filled with
    | .text s => pure s
    | v => Json.write Json.spaced v
  return (filled, [(bodySlot, .text text)])

def ofFields (base : String) (slots : Slots) (config : Mapping Value) : Except Fault Prepared := do
  let method ← method config
  let url ← url base method config slots
  let headers ← headers (fieldOf config "headers") slots
  let (body, written) ← body method (fieldOf config "body") slots
  return ⟨⟨method, url, headers, body⟩, written, fieldOf config "responseMapping"⟩

/-- The request that a configuration describes under the given slots. -/
def ofConfig (base : String) (slots : Slots) (config : Value) : Except Fault Prepared :=
  match config with
  | .object fields => ofFields base slots fields
  | other => .error (.clash (.lacksFields other.kind))

/-- Stores the part of the answer that an entry of the mapping names, unless it is null. -/
def storePart (payload : Value) (draft : Slot.Draft) (entry : Value) :
    Except Fault Slot.Draft := do
  let name := (← entry.field "slot").getD .null
  if !name.truthy then return draft
  let part ← payload.lookupAt ((← entry.field "path").getD (.text ""))
  if part.isNull then return draft else draft.store name part

/-- What the answer to a request writes. -/
def receive (prepared : Prepared) (response : Http.Response) : Except Fault Slot.Draft := do
  if !response.ok then
    throw (.apiCall ("API request failed with status " ++ toString response.status ++ ". Body: " ++
      response.text))
  let draft := Slot.Draft.ofSlots prepared.written
  if !prepared.mapping.truthy then return draft
  let payload ← failCall "API response is not valid JSON" response.json
  (← prepared.mapping.elements).foldlM (storePart payload) draft

end Prepared

end Dialogue.Node
