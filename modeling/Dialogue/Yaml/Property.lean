import Dialogue.Yaml.Scalar
/-!
Anchors, tags and directives as they are written.
-/
namespace Dialogue.Yaml

open Dialogue.Text

/-- A tag as it is written: a whole tag without a handle, or what follows a handle. -/
structure WrittenTag where
  handle : Option String
  suffix : String
  deriving DecidableEq, Repr

inductive Directive where
  | version (major : Nat)
  | tag (handle lead : String)
  | other
  deriving DecidableEq, Repr

def isAsciiAlphanumeric (c : Char) : Bool := c.isAlpha || isAsciiDigit c

def isNamePart (c : Char) : Bool := isAsciiAlphanumeric c || c = '-' || c = '_'

/-- A name of letters, digits, hyphens and low lines. -/
def cutName (s : Spot) : Except Fault (String × Spot) :=
  let (name, t) := s.cutWhile isNamePart
  if name.isEmpty then refuse else .ok (String.ofList name, t)

/-- What may follow the name of an anchor or alias. -/
def endsAnchor (cs : List Char) : Bool :=
  isGap cs || cs.head?.any fun c => ['?', ':', ',', ']', '\x7d', '%', '@', Char.ofNat 96].contains c

/-- The name of an anchor or alias from after its mark. -/
def cutAnchor (s : Spot) : Except Fault (String × Spot) := do
  let (name, t) ← cutName s
  if endsAnchor t.rest then return (name, t) else refuse

def isTagPart (c : Char) : Bool :=
  isAsciiAlphanumeric c ||
    ['-', ';', '/', '?', ':', '@', '&', '=', '+', '$', ',', '_', '.', '!', '~', '*', singleQuote,
      '(', ')', '[', ']'].contains c

/-- Bytes written as percent signs with two digits each. -/
def cutBytes : (fuel : Nat) → Spot → Except Fault (List UInt8 × Spot)
  | 0, s => .ok ([], s)
  | fuel + 1, s =>
      match s.rest with
      | '%' :: cs =>
          match fixedHex? 2 cs with
          | some byte => do
              let (bytes, t) ← cutBytes fuel (s.skip 3)
              return (byte.toUInt8 :: bytes, t)
          | none => refuse
      | _ => .ok ([], s)

def cutSuffixFrom : (fuel : Nat) → Spot → Except Fault (List Char × Spot)
  | 0, s => .ok ([], s)
  | fuel + 1, s =>
      match s.rest with
      | '%' :: _ => do
          let (bytes, t) ← cutBytes (s.rest.length + 1) s
          match String.fromUTF8? ⟨bytes.toArray⟩ with
          | some text => do
              let (more, u) ← cutSuffixFrom fuel t
              return (text.toList ++ more, u)
          | none => refuse
      | c :: _ =>
          if isTagPart c then do
            let (more, t) ← cutSuffixFrom fuel s.step
            return (c :: more, t)
          else .ok ([], s)
      | [] => .ok ([], s)

/-- A non-empty tag or part of one. -/
def cutSuffix (s : Spot) : Except Fault (String × Spot) := do
  let (suffix, t) ← cutSuffixFrom (s.rest.length + 1) s
  if t.index = s.index then refuse else return (String.ofList suffix, t)

/-- A handle: one exclamation mark, or a name between two. -/
def cutHandle (s : Spot) : Except Fault (String × Spot) :=
  match s.rest with
  | '!' :: cs =>
      if cs.head? = some ' ' then .ok ("!", s.step)
      else
        let (name, t) := s.step.cutWhile isNamePart
        if t.rest.head? = some '!' then .ok ("!" ++ String.ofList name ++ "!", t.step) else refuse
  | _ => refuse

def cutTag (s : Spot) : Except Fault (WrittenTag × Spot) := do
  let rest := s.rest.drop 1
  let (tag, t) ←
    if rest.head? = some '<' then do
      let (suffix, t) ← cutSuffix (s.skip 2)
      if t.rest.head? = some '>' then pure (WrittenTag.mk none suffix, t.step) else refuse
    else if isGap rest then pure (WrittenTag.mk none "!", s.step)
    else do
      let word := rest.takeWhile fun c => c ≠ ' ' && !isBreak c
      let (handle, t) ← if word.contains '!' then cutHandle s else pure ("!", s.step)
      let (suffix, u) ← cutSuffix t
      pure (WrittenTag.mk (some handle) suffix, u)
  if endsWord t.rest then return (tag, t) else refuse

def cutNumber (s : Spot) : Except Fault (Nat × Spot) :=
  let (digits, t) := s.cutWhile isAsciiDigit
  if digits.isEmpty then refuse else .ok (decimalValue digits, t)

/-- A directive from after its mark, with the rest of its line. -/
def cutDirective (s : Spot) : Except Fault (Directive × Spot) := do
  let (name, t) ← cutName s
  if !endsWord t.rest then refuse
  let (directive, u) ←
    if name = "YAML" then do
      let (major, t) ← cutNumber t.skipSpaces
      if t.rest.head? ≠ some '.' then refuse
      let (_, t) ← cutNumber t.step
      if endsWord t.rest then pure (Directive.version major, t) else refuse
    else if name = "TAG" then do
      let (handle, t) ← cutHandle t.skipSpaces
      if t.rest.head? ≠ some ' ' then refuse
      let (lead, t) ← cutSuffix t.skipSpaces
      if endsWord t.rest then pure (Directive.tag handle lead, t) else refuse
    else pure (Directive.other, t.skipWhile fun c => !isBreak c)
  return (directive, ← u.skipLine)

end Dialogue.Yaml
