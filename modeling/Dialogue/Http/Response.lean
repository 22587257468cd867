import Dialogue.Json.Reader
/-!
Answers to HTTP requests.
-/
namespace Dialogue.Http

structure Response where
  status : Int
  text : String
  deriving DecidableEq, Repr

def Response.ok (r : Response) : Bool := 200 ≤ r.status && r.status < 300

/-- The value of the body; an empty body is null. -/
def Response.json (r : Response) : Except Fault Value :=
  if r.text = "" then .ok .null else Json.read r.text

end Dialogue.Http

/-!
Requests to HTTP servers and what comes back.
-/
namespace Dialogue.Http

structure Request where
  method : String
  url : String
  headers : Mapping String
  body : Value

/-- What becomes of a request, and how many ticks after its start. -/
structure Arrival where
  reply : Except Fault Response
  delay : Nat

end Dialogue.Http
