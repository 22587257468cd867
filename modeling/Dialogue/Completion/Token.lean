import Dialogue.Http.Transport
/-!
Tokens in a stream of server-sent events.
-/
namespace Dialogue.Completion

open Dialogue.Text

def startsWith (word : String) (cs : List Char) : Bool := word.toList.isPrefixOf (lower cs)

/-- The data of a line, without the field name before it. -/
def lineData (cs : List Char) : List Char :=
  if startsWith "data:" cs then strip (((cut? ':' cs).map Prod.snd).getD []) else cs

/-- The text of a token event; nothing for any other line. -/
def lineToken (line : String) : String :=
  let cs := strip line.toList
  if cs.isEmpty || startsWith "message:" cs then ""
  else
    match Json.read (String.ofList (lineData cs)) with
    | .ok (.object fields) =>
        match Mapping.get? fields "event", Mapping.get? fields "data" with
        | some (.text "token"), some (.text token) => token
        | _, _ => ""
    | _ => ""

end Dialogue.Completion

/-!
Why a completion could not be had.
-/
namespace Dialogue.Completion

inductive Failure where
  | unconfigured
  | empty
  | client (reason : String)
  | http (cause : Http.Failure)
  | status (code : Int)
  | unreadable (cause : Fault)
  deriving DecidableEq, Repr

namespace Failure

/-- Whether another attempt may go better. -/
def isPassing : Failure → Bool
  | .unconfigured | .empty => false
  | _ => true

def message : Failure → String
  | .unconfigured => "Flowise API URL is not configured"
  | .empty => "LLM returned an empty response"
  | .client reason => reason
  | .http cause => cause.reason?.getD cause.name
  | .status code => "HTTP status " ++ toString code
  | .unreadable cause => cause.message

/-- The name of a failure of the connection or of the answer, where it has no wording of its own. -/
def cause? : Failure → Option String
  | .http cause => if cause.reason?.isSome then none else some cause.name
  | .status _ => some "HTTPStatusError"
  | .unreadable (.invalidJson _) => some "JSONDecodeError"
  | .unreadable _ => some "ValueError"
  | _ => none

def fault (failure : Failure) : Fault := .completion failure.message

end Failure

end Dialogue.Completion
