import Dialogue.Http.Address
import Dialogue.Json.Reader
/-!
The endpoints of the service, and the paths and methods that lead to them.
-/
namespace Dialogue.Service

open Dialogue.Text

inductive Endpoint where
  | health
  | scenarios
  | shortcut
  | launch (conversation : String)
  | sessions (conversation : String)
  | session (id : String)
  | turn (id : String)
  | cancel (id : String)
  | select (id : String)
  | delete (id : String)
  | events (id : String)
  deriving DecidableEq, Repr

namespace Endpoint

/-- The endpoints at a path by their methods. -/
def atParts : List String → Mapping Endpoint
  | ["health"] => [("GET", .health)]
  | "api" :: "v1" :: rest =>
      match rest with
      | ["scenarios"] => [("GET", .scenarios)]
      | ["shortcuts", "resolve"] => [("POST", .shortcut)]
      | ["conversations", id, "scenario-sessions"] => [("POST", .launch id), ("GET", .sessions id)]
      | ["scenario-sessions", id] => [("GET", .session id), ("DELETE", .delete id)]
      | ["scenario-sessions", id, "turns"] => [("POST", .turn id)]
      | ["scenario-sessions", id, "cancel"] => [("POST", .cancel id)]
      | ["scenario-sessions", id, "selected-option"] => [("PATCH", .select id)]
      | ["scenario-sessions", id, "events"] => [("GET", .events id)]
      | _ => []
  | _ => []

/-- The parts of a path after its first slash. A path with an empty part leads nowhere. -/
def parts (path : List Char) : List String :=
  let parts := (splitAll '/' path).drop 1
  if parts.any List.isEmpty then [] else parts.map String.ofList

/-- The text without a line feed at its end. -/
def dropLineFeed (cs : List Char) : List Char :=
  if cs.getLast? = some '\n' then cs.dropLast else cs

def dropSlashes (cs : List Char) : List Char := (cs.reverse.dropWhile (· = '/')).reverse

/-- The endpoints at a path. Where there are none, a line feed or slashes at the end of the path do
not count. -/
def atPath (path : List Char) : Mapping Endpoint :=
  let candidates := [path, dropLineFeed path, dropSlashes path].map fun path => atParts (parts path)
  (candidates.find? fun found => !found.isEmpty).getD []

/-- The path of a target without its query, with all escapes undone. -/
def pathOf (target : String) : List Char :=
  match Http.Address.parse? target.toList with
  | some address => Url.decode (Url.decode (Http.Address.plainPath address.sent.path))
  | none => []

/-- A path leads nowhere, or not by the method that is tried, or to an endpoint. -/
inductive Finding where
  | nothing
  | otherMethods
  | endpoint (found : Endpoint)

def find (method target : String) : Finding :=
  let found := atPath (pathOf target)
  match Mapping.get? found method with
  | some endpoint => .endpoint endpoint
  | none => if found.isEmpty then .nothing else .otherMethods

end Endpoint

end Dialogue.Service

/-!
Forms: the fields that the body of a request must and may have, and what is objected to a body that
does not fit.
-/
namespace Dialogue.Service

/-- What is wrong with a body, and where: the names and positions that lead to the place. -/
structure Complaint where
  type : String
  place : List Value
  message : String

namespace Complaint

def missing (place : List Value) : Complaint := ⟨"missing", place, "Field required"⟩

def notText (place : List Value) : Complaint :=
  ⟨"string_type", place, "Input should be a valid string"⟩

def notObject (place : List Value) : Complaint :=
  ⟨"dict_type", place, "Input should be a valid dictionary"⟩

def notForm (place : List Value) : Complaint :=
  ⟨"model_attributes_type", place,
    "Input should be a valid dictionary or object to extract fields from"⟩

def notJson (position : Nat) : Complaint :=
  ⟨"json_invalid", [.text "body", .int position], "JSON decode error"⟩

def toValue (c : Complaint) : Value :=
  .object [("type", .text c.type), ("loc", .list c.place), ("msg", .text c.message)]

end Complaint

/-- A text that must be given, a text that may be missing or null, an object that may be missing. -/
inductive Demand where
  | text
  | optionalText
  | optionalObject
  deriving DecidableEq, Repr

abbrev Form := Mapping Demand

/-- What is objected to the value of a field under a demand. -/
def Demand.complaint? (demand : Demand) (place : List Value) (given : Option Value) :
    Option Complaint :=
  match demand, given with
  | .text, none => some (.missing place)
  | .optionalText, none | .optionalText, some .null | .optionalObject, none => none
  | .text, some (.text _) | .optionalText, some (.text _) | .optionalObject, some (.object _) =>
      none
  | .text, some _ | .optionalText, some _ => some (.notText place)
  | .optionalObject, some _ => some (.notObject place)

namespace Form

/-- All that is objected to the fields of a body, in the order of the form. -/
def complaints (form : Form) (fields : Mapping Value) : List Complaint :=
  form.filterMap fun (name, demand) =>
    demand.complaint? [.text "body", .text name] (Mapping.get? fields name)

/-- Why a body is refused. -/
inductive Refusal where
  | unreadable
  | unfit (complaints : List Complaint)

def refuse {α : Type} (complaint : Complaint) : Except Refusal α := .error (.unfit [complaint])

def parse (body : String) : Except Refusal Value :=
  match Json.readBody body with
  | .ok v => .ok v
  | .error (.invalidJson e) => refuse (.notJson e.position)
  | .error _ => .error .unreadable

/-- The fields of a body that fits a form. -/
def read (form : Form) (body : String) : Except Refusal (Mapping Value) :=
  if body = "" then refuse (.missing [.text "body"])
  else do
    match ← parse body with
    | .null => refuse (.missing [.text "body"])
    | .object fields =>
        match form.complaints fields with
        | [] => return fields
        | complaints => throw (.unfit complaints)
    | _ => refuse (.notForm [.text "body"])

end Form

end Dialogue.Service
