import Dialogue.Url.Parts
import Dialogue.Url.Percent
/-!
The parameter by which an embedded page learns the session it belongs to.
-/
namespace Dialogue.Session

open Dialogue.Text

def paramName : List Char := "scenario_session_id".toList

/-- The parameter at the end of a relative URL, as plain text. -/
def appendPlain (url session : List Char) : List Char :=
  if occursIn (paramName ++ ['=']) url then url
  else url ++ (if url.contains '?' then '&' else '?') :: (paramName ++ '=' :: session)

/-- The parameter at the end of the query of an absolute URL. -/
def appendToQuery (url session : List Char) (parts : Url.Parts) : List Char :=
  let params := Url.decodeQuery parts.query
  if params.any fun param => param.1 = paramName then url
  else Url.Parts.join { parts with query := Url.encodeQuery (params ++ [(paramName, session)]) }

/-- Adds the session to a URL, unless it is there already. -/
def appendParam (url session : String) : Except Fault String := do
  let parts ← Url.split url.toList
  if parts.isAbsolute then return String.ofList (appendToQuery url.toList session.toList parts)
  else return String.ofList (appendPlain url.toList session.toList)

/-- Only texts are URLs. -/
def appendParamTo (url : Value) (session : String) : Except Fault String :=
  match url with
  | .text s => appendParam s session
  | _ => .error (.clash .notAnAddress)

end Dialogue.Session
