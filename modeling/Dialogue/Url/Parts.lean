import Dialogue.Fault
import Dialogue.Url.Host
/-!
URLs cut into scheme, authority, path, query and fragment.
-/
namespace Dialogue.Url

open Dialogue.Text

structure Parts where
  scheme : List Char
  authority : List Char
  path : List Char
  query : List Char
  fragment : List Char
  deriving DecidableEq, Repr

/-- Control characters and spaces before a URL do not belong to it, nor do tabs and line breaks. -/
def clean (cs : List Char) : List Char :=
  (cs.dropWhile fun c => c.toNat ≤ 32).filter fun c => c ≠ '\t' && c ≠ '\n' && c ≠ '\r'

def isSchemeChar (c : Char) : Bool := c.isAlphanum || c = '+' || c = '-' || c = '.'

def isScheme (cs : List Char) : Bool :=
  (cs.head?.map Char.isAlpha).getD false && cs.all isSchemeChar

/-- The scheme in lower case, and the rest after its colon. -/
def cutScheme (cs : List Char) : List Char × List Char :=
  match cut? ':' cs with
  | some (scheme, rest) => if isScheme scheme then (scheme.map Char.toLower, rest) else ([], cs)
  | none => ([], cs)

def endsAuthority (c : Char) : Bool := c = '/' || c = '?' || c = '#'

def cutAuthority (cs : List Char) : List Char × List Char :=
  match cs with
  | '/' :: '/' :: rest =>
      (rest.takeWhile fun c => !endsAuthority c, rest.dropWhile fun c => !endsAuthority c)
  | _ => ([], cs)

/-- What stands before a mark, and what after it. -/
def cutAt (mark : Char) (cs : List Char) : List Char × List Char := (cut? mark cs).getD (cs, [])

def split (url : List Char) : Except Fault Parts :=
  let (scheme, afterScheme) := cutScheme (clean url)
  let (authority, afterAuthority) := cutAuthority afterScheme
  let (beforeFragment, fragment) := cutAt '#' afterAuthority
  let (path, query) := cutAt '?' beforeFragment
  if !bracketsFit authority || hasHiddenDelimiter authority then .error (.malformed .address)
  else .ok ⟨scheme, authority, path, query, fragment⟩

/-- A mark before a part that is not empty. -/
def marked (mark : List Char) (part : List Char) : List Char :=
  if part.isEmpty then [] else mark ++ part

/-- The text of a URL that has an authority. -/
def Parts.join (p : Parts) : List Char :=
  let path := if p.path.isEmpty || p.path.head? = some '/' then p.path else '/' :: p.path
  p.scheme ++ ':' :: '/' :: '/' :: p.authority ++ path ++ marked ['?'] p.query ++
    marked ['#'] p.fragment

def Parts.isAbsolute (p : Parts) : Bool := !p.scheme.isEmpty && !p.authority.isEmpty

end Dialogue.Url
