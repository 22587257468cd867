import Dialogue.Value.Basic
import Dialogue.Json.Error
import Dialogue.Session.Basic
import Dialogue.Text.Printable
/-!
Why an operation could not be carried out. A fault is a cause; its wording is `Fault.message`.
-/
namespace Dialogue

/-- An operation met a value of a kind it has no meaning for. -/
inductive Clash where
  | lacksFields (kind : Kind)
  | notIterable (kind : Kind)
  | lacksLength (kind : Kind)
  | lacksItems (kind : Kind)
  | lacksLayout (kind : Kind)
  | unhashable (kind : Kind)
  | notAPattern
  | notANumber (kind : Kind)
  | notAnAddress
  | repeatedArgument
  | notJoinable
  | mixedClocks
  deriving DecidableEq, Repr

/-- A value of the right kind that writes nothing usable. -/
inductive Malformed where
  | longInteger (digits : Nat)
  | unprintableInteger
  | numeral (text : String)
  | notANumber
  | entries
  | address
  | template
  | codePoint
  | pattern
  | body
  | limit
  deriving DecidableEq, Repr

inductive Fault where
  | clash (cause : Clash)
  | malformed (cause : Malformed)
  | overflow
  | missingField (name : String)
  | missingIndex
  | invalidRecord
  | invalidJson (error : Json.SyntaxError)
  | invalidYaml
  | unknownFields (names : List String)
  | immutableFields (names : List String)
  | scenarioNotFound (scenario : String)
  | invalidScenario (scenario : String) (errors : List String)
  | sessionNotFound (session : String)
  | sessionTerminated (session : String) (status : Status)
  | turnInProgress (session : String)
  | turnTimeout (session : String) (limit : String)
  | concurrentUpdate (session : String) (expected actual : String)
  | completion (reason : String)
  | transport (reason : String)
  | noSuchNode (scenario node : String)
  | apiCall (reason : String)
  | crash (reason : String)
  deriving DecidableEq, Repr

def Clash.message : Clash → String
  | .lacksFields kind => "'" ++ kind.label ++ "' object has no attribute 'get'"
  | .notIterable kind => "'" ++ kind.label ++ "' object is not iterable"
  | .lacksLength kind => "object of type '" ++ kind.label ++ "' has no len()"
  | .lacksItems kind => "'" ++ kind.label ++ "' object is not subscriptable"
  | .lacksLayout kind => "unsupported format string passed to " ++ kind.label
  | .unhashable kind => "unhashable type: '" ++ kind.label ++ "'"
  | .notAPattern => "first argument must be string or compiled pattern"
  | .notANumber kind =>
      "float() argument must be a string or a real number, not '" ++ kind.label ++ "'"
  | .notAnAddress => "Cannot mix str and non-str arguments"
  | .repeatedArgument => "got multiple values for argument"
  | .notJoinable => "sequence item: expected str instance"
  | .mixedClocks => "can't compare offset-naive and offset-aware datetimes"

def Malformed.message : Malformed → String
  | .longInteger digits =>
      "Exceeds the limit (4300 digits) for integer string conversion: value has " ++
        toString digits ++
        " digits; use sys.set_int_max_str_digits() to increase the limit"
  | .unprintableInteger =>
      "Exceeds the limit (4300 digits) for integer string conversion; " ++
        "use sys.set_int_max_str_digits() to increase the limit"
  | .numeral text => "invalid literal for int() with base 10: " ++ Text.displayQuoted text
  | .notANumber => "cannot convert float NaN to integer"
  | .entries => "dictionary update sequence element has the wrong length"
  | .address => "Invalid IPv6 URL"
  | .pattern => "ASCII and UNICODE flags are incompatible"
  | .template => "Single '\x7d' encountered in format string"
  | .codePoint => "chr() arg not in range(0x110000)"
  | .body => "Out of range float values are not JSON compliant"
  | .limit => "maxlen must be non-negative"

/-- The names in brackets, each in quotes. -/
def quotedNames (names : List String) : String :=
  "[" ++ ", ".intercalate (names.map Text.displayQuoted) ++ "]"

def Fault.message : Fault → String
  | .clash cause => cause.message
  | .malformed cause => cause.message
  | .overflow => "int too large to convert to float"
  | .missingField name => "'" ++ name ++ "'"
  | .missingIndex => "0"
  | .invalidRecord => "validation error"
  | .invalidJson error => error.message
  | .invalidYaml => "invalid YAML"
  | .unknownFields names => "Unknown session fields: " ++ quotedNames names
  | .immutableFields names => "Immutable session fields: " ++ quotedNames names
  | .scenarioNotFound scenario => "Scenario '" ++ scenario ++ "' not found"
  | .invalidScenario scenario errors =>
      "Scenario '" ++ scenario ++ "' is invalid: " ++ "; ".intercalate errors
  | .sessionNotFound session => "Scenario session '" ++ session ++ "' not found"
  | .sessionTerminated session status =>
      "Scenario session '" ++ session ++ "' is already " ++ status.name
  | .turnInProgress session => "Scenario session '" ++ session ++ "' is still processing a turn"
  | .turnTimeout session limit =>
      "Turn for scenario session '" ++ session ++ "' timed out after " ++ limit ++ "s"
  | .concurrentUpdate session expected actual =>
      "Scenario session '" ++ session ++ "' changed concurrently (expected version " ++ expected ++
        ", found " ++ actual ++ ")"
  | .completion reason => reason
  | .transport reason => reason
  | .noSuchNode scenario node => "Scenario '" ++ scenario ++ "' has no node '" ++ node ++ "'"
  | .apiCall reason => reason
  | .crash reason => reason

/-- The name under which callers are told of a fault; a fault that has none is not expected. -/
def Fault.name? : Fault → Option String
  | .scenarioNotFound _ => some "ScenarioNotFoundError"
  | .invalidScenario _ _ => some "InvalidScenarioError"
  | .sessionNotFound _ => some "SessionNotFoundError"
  | .sessionTerminated _ _ => some "SessionTerminatedError"
  | .turnInProgress _ => some "TurnInProgressError"
  | .turnTimeout _ _ => some "TurnTimeoutError"
  | .concurrentUpdate _ _ _ => some "ConcurrentUpdateError"
  | .completion _ => some "CompletionError"
  | .transport _ => some "TransportError"
  | .noSuchNode _ _ => some "GraphError"
  | .apiCall _ => some "ApiCallError"
  | _ => none

/-- Faults of text that writes no usable value. -/
def Fault.isUnreadable : Fault → Bool
  | .malformed _ | .invalidJson _ => true
  | _ => false

namespace Value

/-- The named field of an object, `none` if it has no such field. -/
def field (v : Value) (name : String) : Except Fault (Option Value) :=
  match v with
  | .object fields => .ok (Mapping.get? fields name)
  | other => .error (.clash (.lacksFields other.kind))

/-- What a value holds, one after the other: the items of a list, the characters of a text, the
keys of an object. -/
def elements : Value → Except Fault (List Value)
  | .list items => .ok items
  | .text s => .ok (s.toList.map fun c => .text (String.ofList [c]))
  | .object fields => .ok (fields.map fun entry => .text entry.1)
  | other => .error (.clash (.notIterable other.kind))

/-- One key and value, written as a list of two or as a text of two characters. -/
def entry (v : Value) : Except Fault (Value × Value) := do
  match ← v.elements with
  | [key, value] =>
      if key.hashable then return (key, value) else throw (.clash (.unhashable key.kind))
  | _ => throw (.malformed .entries)

/-- The field of an entry whose key is a text. -/
def fieldOf? (entry : Value × Value) : Option (String × Value) :=
  entry.1.text?.map fun name => (name, entry.2)

/-- The fields of an object, or those that a sequence of entries writes. Entries whose keys are no
texts are left out. -/
def textFields : Value → Except Fault (Mapping Value)
  | .object fields => .ok fields
  | other => do return Mapping.ofEntries ((← (← other.elements).mapM entry).filterMap fieldOf?)

/-- The fields of an object, or those that a sequence of entries writes. All keys are texts. -/
def toFields : Value → Except Fault (Mapping Value)
  | .object fields => .ok fields
  | other => do
      match (← (← other.elements).mapM entry).mapM fieldOf? with
      | some fields => return Mapping.ofEntries fields
      | none => throw .invalidRecord

end Value

end Dialogue
