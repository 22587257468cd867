import Dialogue.Numeral
import Dialogue.Url.Host
import Dialogue.Url.Parts
/-!
Addresses of requests: URLs in the form in which they are sent.
-/
namespace Dialogue.Http

open Dialogue.Text Dialogue.Url

/-- A query or fragment that is empty differs from one that is missing. -/
structure Address where
  scheme : List Char
  user : List Char
  host : List Char
  port : Option Int
  path : List Char
  query : Option (List Char)
  fragment : Option (List Char)
  deriving DecidableEq, Repr

namespace Address

/-- The characters from `!` to `~` without those in `encoded`. -/
def keeps (encoded : List Char) (c : Char) : Bool :=
  0x20 < c.toNat && c.toNat < 0x7f && !encoded.contains c

def keepsInPath : Char → Bool := keeps ['"', '#', '<', '>', '?', '`', '\x7b', '\x7d']

def keepsInQuery : Char → Bool := keeps ['"', '#', '<', '>']

def keepsInFragment : Char → Bool := keeps ['"', '<', '>', '`']

def keepsInUser : Char → Bool :=
  keeps ['"', '#', '<', '>', '?', '`', '\x7b', '\x7d', '/', ';', '=', '@', '[', '\\', ']', '^', '|']

def keepsInHost : Char → Bool := keeps ['#', '/', '<', '>', '?', '@', '[', ']', '^']

/-- The components of a path without those that stand for a directory itself or its parent. -/
def dropDots (components : List (List Char)) : List (List Char) :=
  components.foldl (fun kept part =>
    if part = ['.'] then kept
    else if part = ['.', '.'] then (if kept = [[]] then kept else kept.dropLast)
    else kept ++ [part]) []

def joinPath (components : List (List Char)) : List Char := List.intercalate ['/'] components

def plainPath (path : List Char) : List Char :=
  let components := splitAll '/' path
  if components.contains ['.'] || components.contains ['.', '.'] then joinPath (dropDots components)
  else path

/-- The user, host and port of an authority. -/
def cutAuthority (authority : List Char) : List Char × List Char × List Char :=
  let (user, rest) := (cutLast? '@' authority).getD ([], authority)
  match rest, cutLast? ']' rest with
  | '[' :: _, some (address, after) =>
      (user, address ++ [']'], if after.head? = some ':' then after.tail else after)
  | _, _ => (user, rest.takeWhile (· ≠ ':'), (rest.dropWhile (· ≠ ':')).tail)

def isBracketed (host : List Char) : Bool := host.head? = some '[' && host.getLast? = some ']'

/-- Runs of digits with `marks` characters of any kind between them. -/
def isNumbered : (marks : Nat) → (afterDigit : Bool) → List Char → Bool
  | marks, afterDigit, [] => marks = 0 && afterDigit
  | 0, _, c :: cs => isAsciiDigit c && isNumbered 0 true cs
  | marks + 1, afterDigit, c :: cs =>
      (isAsciiDigit c && isNumbered (marks + 1) true cs) ||
        (afterDigit && isNumbered marks false cs)

/-- The host as it is sent; nothing for a host that looks like an address in numbers and is none,
and for a name that no host may have. -/
def host? (host : List Char) : Option (List Char) :=
  if isNumbered 3 false host then (if isIpv4 host then some host else none)
  else if isBracketed host then
    let inner := (host.drop 1).dropLast
    if isIpv6 inner then some inner else none
  else if host.all Punycode.isAscii then some (encode keepsInHost (host.map Char.toLower))
  else asciiHost? (lower host)

def defaultPort? (scheme : List Char) : Option Int :=
  Mapping.get? [("ftp", 21), ("http", 80), ("https", 443), ("ws", 80), ("wss", 443)]
    (String.ofList scheme)

/-- The port, unless it is the usual one of the scheme; nothing for a text that is no number. -/
def port? (scheme port : List Char) : Option (Option Int) :=
  if port.isEmpty then some none
  else (Numeral.parse port).toOption.map fun n =>
    if defaultPort? scheme = some n then none else some n

/-- The scheme, if a name and a colon stand in front, and the rest. -/
def cutScheme (cs : List Char) : List Char × List Char :=
  match cut? ':' cs with
  | some (scheme, rest) => if scheme.isEmpty || isScheme scheme then (scheme, rest) else ([], cs)
  | none => ([], cs)

/-- What stands before a mark, and what after it if it is there. -/
def cutAt (mark : Char) (cs : List Char) : List Char × Option (List Char) :=
  match cut? mark cs with
  | some (before, after) => (before, some after)
  | none => (cs, none)

/-- Without scheme and host a path must not look as if it had them. -/
def isMisleading (path : List Char) : Bool :=
  path.head? = some ':' || ['/', '/'].isPrefixOf path

def maxLength : Nat := 65536

def isControl (c : Char) : Bool := c.toNat < 0x20 || c.toNat = 0x7f

/-- The address that a text writes; nothing for a text that writes none. -/
def parse? (cs : List Char) : Option Address := do
  if maxLength < cs.length || cs.any isControl then none
  let (scheme, afterScheme) := cutScheme cs
  let (authority, afterAuthority) := Url.cutAuthority afterScheme
  let (beforeFragment, fragment) := cutAt '#' afterAuthority
  let (path, query) := cutAt '?' beforeFragment
  let (user, host, port) := cutAuthority authority
  let host ← host? host
  let port ← port? scheme port
  let isPlaced := !user.isEmpty || !host.isEmpty || port.isSome
  if scheme.isEmpty && !isPlaced && isMisleading path then none
  let path := if scheme.isEmpty && !isPlaced then path else plainPath path
  return ⟨scheme.map Char.toLower, encode keepsInUser user, host, port, encode keepsInPath path,
    query.map (encode keepsInQuery), fragment.map (encode keepsInFragment)⟩

/-- Whether a server is named. -/
def isAbsolute (a : Address) : Bool := !a.scheme.isEmpty && !a.host.isEmpty

/-- An address that names no server is sent as a path and a query. -/
def sent (a : Address) : Address :=
  if a.isAbsolute then a
  else ⟨[], [], [], none, '/' :: a.path.dropWhile (· = '/'), a.query, none⟩

def authority (a : Address) : List Char :=
  (if a.user.isEmpty then [] else a.user ++ ['@']) ++
    (if a.host.contains ':' then '[' :: a.host ++ [']'] else a.host) ++
    a.port.elim [] fun n => ':' :: (toString n).toList

def print (a : Address) : List Char :=
  (if a.scheme.isEmpty then [] else a.scheme ++ [':']) ++
    (if a.authority.isEmpty then [] else '/' :: '/' :: a.authority) ++ a.path ++
    a.query.elim [] ('?' :: ·) ++ a.fragment.elim [] ('#' :: ·)

/-- The address that `other` writes when it is met at `a`. -/
def follow (a other : Address) : Address :=
  let placed :=
    if !other.scheme.isEmpty && other.host.isEmpty then { other with host := a.host } else other
  if placed.isAbsolute then placed
  else if !placed.host.isEmpty then { placed with scheme := a.scheme }
  else if placed.path.isEmpty then
    { a with query := placed.query.or a.query, fragment := placed.fragment }
  else
    let path :=
      if placed.path.head? = some '/' then placed.path
      else (a.path.reverse.dropWhile (· ≠ '/')).reverse ++ placed.path
    { a with path := plainPath path, query := placed.query, fragment := placed.fragment }

def portOf (a : Address) : Option Int := a.port.or (defaultPort? a.scheme)

def isSameOrigin (a b : Address) : Bool :=
  a.scheme = b.scheme && a.host = b.host && a.portOf = b.portOf

/-- From a plain server to the secure one of the same name. -/
def isUpgrade (a b : Address) : Bool :=
  a.host = b.host && a.scheme = "http".toList && a.portOf = some 80 && b.scheme = "https".toList &&
    b.portOf = some 443

end Address

end Dialogue.Http
