import Dialogue.Http.Address
import Dialogue.Http.Response
import Dialogue.Json.Writer
import Dialogue.Text.Basic
import Dialogue.Text.Case
import Dialogue.Url.Percent
import Dialogue.Value.Convert
/-!
Requests in the form in which they are sent.
-/
namespace Dialogue.Http

open Dialogue.Text

/-- Credentials in the address of a request. -/
structure Credentials where
  user : List Char
  password : List Char
  deriving DecidableEq, Repr

/-- The character for six bits. -/
def sixBitChar (n : Nat) : Char :=
  if n < 26 then Char.ofNat (65 + n)
  else if n < 52 then Char.ofNat (71 + n)
  else if n < 62 then Char.ofNat (n - 4)
  else if n = 62 then '+'
  else '/'

/-- Three octets as four characters; what is missing at the end is filled up. -/
def sixBitText : List Nat → List Char
  | a :: b :: c :: rest =>
      sixBitChar (a / 4) :: sixBitChar (a % 4 * 16 + b / 16) :: sixBitChar (b % 16 * 4 + c / 64) ::
        sixBitChar (c % 64) :: sixBitText rest
  | [a, b] =>
      [sixBitChar (a / 4), sixBitChar (a % 4 * 16 + b / 16), sixBitChar (b % 16 * 4), '=']
  | [a] => [sixBitChar (a / 4), sixBitChar (a % 4 * 16), '=', '=']
  | [] => []

namespace Credentials

/-- What the user information of an address stands for; nothing if it names neither a user nor a
password. -/
def ofUser? (user : List Char) : Option Credentials :=
  let (name, password) := (cut? ':' user).getD (user, [])
  if name.isEmpty && password.isEmpty then none else some ⟨Url.decode name, Url.decode password⟩

/-- The header that carries credentials. -/
def header (c : Credentials) : String :=
  "Basic " ++ String.ofList (sixBitText ((c.user ++ ':' :: c.password).flatMap octets))

end Credentials

theorem length_sixBitText (bs : List Nat) : (sixBitText bs).length = 4 * ((bs.length + 2) / 3) := by
  fun_induction sixBitText bs with
  | case1 a b c rest ih => simp only [List.length_cons, ih]; omega
  | case2 => simp
  | case3 => simp
  | case4 => rfl

/-- The names of headers are in lower case, each name once. -/
structure Outgoing where
  method : String
  address : Address
  headers : Mapping String
  body : String

/-- Why a request cannot be sent. -/
inductive Unsendable where
  | address
  | headerText
  | body
  deriving DecidableEq, Repr

def Unsendable.label : Unsendable → String
  | .address => "InvalidURL"
  | .headerText => "UnicodeEncodeError"
  | .body => "ValueError"

namespace Outgoing

/-- A request without a method gets something. -/
def methodOf (method : String) : String :=
  if method = "" then "GET" else String.ofList (upper method.toList)

def isAscii (s : String) : Bool := s.toList.all (·.toNat < 128)

/-- Values of headers with one name are joined. -/
def addHeader (headers : Mapping String) (header : String × String) : Mapping String :=
  let name := String.ofList (header.1.toList.map Char.toLower)
  match Mapping.get? headers name with
  | some value => Mapping.set headers name (value ++ ", " ++ header.2)
  | none => Mapping.set headers name header.2

def headersOf (headers : Mapping String) : Option (Mapping String) :=
  if headers.all fun (name, value) => isAscii name && isAscii value then
    some (headers.foldl addHeader [])
  else none

/-- The text of a body, and its type if it is JSON. Lists and objects are sent as JSON, everything
else as it is displayed. -/
def bodyOf (body : Value) : Except Fault (String × Option String) :=
  match body with
  | .null => .ok ("", none)
  | .list _ | .object _ => do
      return (← Json.writeFinite Json.compact body, some "application/json")
  | v => do return (← v.display, none)

/-- A type that is given wins over that of the body. -/
def withType (headers : Mapping String) (type : Option String) : Mapping String :=
  match type with
  | some type =>
      if Mapping.has headers "content-type" then headers
      else Mapping.set headers "content-type" type
  | none => headers

/-- Credentials in the address win over a header that is given. -/
def withCredentials (headers : Mapping String) (address : Address) : Mapping String :=
  match Credentials.ofUser? address.user with
  | some credentials => Mapping.set headers "authorization" credentials.header
  | none => headers

def ofRequest (request : Request) : Except Unsendable Outgoing :=
  match Address.parse? request.url.toList, headersOf request.headers, bodyOf request.body with
  | none, _, _ => .error .address
  | some _, none, _ => .error .headerText
  | some _, some _, .error _ => .error .body
  | some address, some headers, .ok (body, type) =>
      let sent := address.sent
      .ok ⟨methodOf request.method, sent, withCredentials (withType headers type) sent, body⟩

end Outgoing

end Dialogue.Http
