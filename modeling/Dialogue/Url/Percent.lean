import Dialogue.Text.Digit
import Dialogue.Text.Basic
/-!
Percent encoding: an octet as `%` and two hexadecimal digits.
-/
namespace Dialogue.Url

open Dialogue.Text

def upperHex (n : Nat) : Char := if n < 10 then Char.ofNat (48 + n) else Char.ofNat (55 + n)

/-- Letters, digits and `_.-~` are never encoded. -/
def isUnreserved (c : Char) : Bool :=
  c.isAlphanum || c = '_' || c = '.' || c = '-' || c = '~'

def encodeOctet (b : Nat) : List Char := ['%', upperHex (b / 16), upperHex (b % 16)]

def encodeChar (safe : Char → Bool) (c : Char) : List Char :=
  if isUnreserved c || safe c then [c] else (octets c).flatMap encodeOctet

/-- Encodes all characters that are neither unreserved nor `safe`. -/
def encode (safe : Char → Bool) (cs : List Char) : List Char := cs.flatMap (encodeChar safe)

/-- The octet that an encoding at the front of a text stands for. -/
def escapeAt? : List Char → Option Nat
  | '%' :: a :: b :: _ => do return 16 * (← hexValue? a) + (← hexValue? b)
  | _ => none

/-- The octets that a text stands for, after passing over `skip` characters. -/
def octetsFrom : Nat → List Char → List Nat
  | _, [] => []
  | skip + 1, _ :: cs => octetsFrom skip cs
  | 0, c :: cs =>
      match escapeAt? (c :: cs) with
      | some b => b :: octetsFrom 2 cs
      | none => octets c ++ octetsFrom 0 cs

/-- A `%` without two hexadecimal digits stays as it is. -/
def decode (cs : List Char) : List Char := decodeOctets (octetsFrom 0 cs)

end Dialogue.Url

/-!
Queries: names and values joined by `=` and `&`, with `+` for a space.
-/
namespace Dialogue.Url

open Dialogue.Text

/-- A name and its value. -/
abbrev Param := List Char × List Char

def encodeField (cs : List Char) : List Char :=
  (encode (· = ' ') cs).map fun c => if c = ' ' then '+' else c

def decodeField (cs : List Char) : List Char := decode (cs.map fun c => if c = '+' then ' ' else c)

def encodeParam (param : Param) : List Char :=
  encodeField param.1 ++ '=' :: encodeField param.2

def encodeQuery : List Param → List Char
  | [] => []
  | [param] => encodeParam param
  | param :: rest => encodeParam param ++ '&' :: encodeQuery rest

/-- A field without `=` has an empty value. -/
def decodeParam (field : List Char) : Param :=
  match cut? '=' field with
  | some (name, value) => (decodeField name, decodeField value)
  | none => (decodeField field, [])

/-- The parameters of a query, those with an empty value included. -/
def decodeQuery (query : List Char) : List Param :=
  ((splitAll '&' query).filter fun field => !field.isEmpty).map decodeParam

end Dialogue.Url
