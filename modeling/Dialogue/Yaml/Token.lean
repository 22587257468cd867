import Dialogue.Yaml.Scalar
import Dialogue.Yaml.Property
/-!
The tokens of a document. Indentation becomes tokens of its own. Whether something is a key shows
only at the colon after it; the token for the key is then put in before it.
-/
namespace Dialogue.Yaml

open Dialogue.Text

inductive Token where
  | directive (directive : Directive)
  | documentStart
  | documentEnd
  | blockSequence
  | blockMapping
  | blockEnd
  | flowSequence
  | flowSequenceEnd
  | flowMapping
  | flowMappingEnd
  | item
  | comma
  | key
  | value
  | alias (name : String)
  | anchor (name : String)
  | tag (tag : WrittenTag)
  | scalar (text : String) (plain : Bool)
  deriving DecidableEq, Repr

/-- What may turn out to be a key: the place it starts at, how many tokens and flow collections
come before it or around it, and whether its line must hold a key. -/
structure Candidate where
  spot : Spot
  token : Nat
  flow : Nat
  required : Bool

/-- How far a document has been read. `margins` are the columns from which the open block
collections hold nested values, innermost first; `read` are the tokens, last one first. -/
structure Scan where
  spot : Spot
  flow : Nat
  margins : List Nat
  mayKey : Bool
  candidates : List Candidate
  read : List Token

namespace Scan

def start (cs : List Char) : Scan := ⟨⟨0, 0, 0, cs⟩, 0, [], true, [], []⟩

def margin (s : Scan) : Nat := s.margins.headD 0

def push (s : Scan) (token : Token) : Scan := { s with read := token :: s.read }

/-- Puts a token before the one with a given number. -/
def insert (s : Scan) (number : Nat) (token : Token) : Scan :=
  { s with read := s.read.insertIdx (s.read.length - number) token }

/-- Passes over the characters of a token that consists of `length` of them. -/
def emit (s : Scan) (length : Nat) (token : Token) : Scan :=
  { s.push token with spot := s.spot.skip length }

/-- A line that must hold a key has none. -/
def dropCandidates (s : Scan) (test : Candidate → Bool) : Except Fault Scan :=
  if s.candidates.any fun c => test c && c.required then refuse
  else .ok { s with candidates := s.candidates.filter fun c => !test c }

/-- Keys stand on one line and are of limited length. -/
def dropStale (s : Scan) : Except Fault Scan :=
  s.dropCandidates fun c => c.spot.line ≠ s.spot.line || 1024 < s.spot.index - c.spot.index

def dropCandidate (s : Scan) : Except Fault Scan := s.dropCandidates fun c => c.flow = s.flow

/-- Notes that a key may start here. -/
def saveCandidate (s : Scan) : Except Fault Scan := do
  if !s.mayKey then return s
  let t ← s.dropCandidate
  let required := s.flow = 0 && s.margin = s.spot.column + 1
  return { t with candidates := t.candidates ++ [⟨s.spot, s.read.length, s.flow, required⟩] }

/-- Closes the block collections whose values stand further right than `limit`. -/
def closeBlocks (s : Scan) (limit : Nat) : Scan :=
  if s.flow = 0 then
    let closed := s.margins.takeWhile (limit < ·)
    { s with
      margins := s.margins.dropWhile (limit < ·)
      read := List.replicate closed.length .blockEnd ++ s.read }
  else s

/-- Opens a block collection at a column if none is open there. -/
def openBlock (s : Scan) (column : Nat) (number : Nat) (token : Token) : Scan :=
  if s.flow = 0 && s.margin ≤ column then
    { s.insert number token with margins := (column + 1) :: s.margins }
  else s

def skipSpaceFrom : (fuel : Nat) → Scan → Scan
  | 0, s => s
  | fuel + 1, s =>
      let t := s.spot.skipSpaces.skipComment
      if !t.rest.isEmpty && endsLine t.rest then
        skipSpaceFrom fuel { s with spot := t.step, mayKey := s.mayKey || s.flow = 0 }
      else { s with spot := t }

/-- Passes over what stands between tokens. -/
def skipSpace (s : Scan) : Scan :=
  let atFront := s.spot.index = 0 && s.spot.rest.head?.any isOrderMark
  skipSpaceFrom (s.spot.rest.length + 1) (if atFront then { s with spot := s.spot.step } else s)

/-- A directive or the mark of a document; it ends all block collections. -/
def readMark (s : Scan) (length : Nat) (token : Token) : Except Fault Scan := do
  let t ← (s.closeBlocks 0).dropCandidate
  return { t.emit length token with mayKey := false }

def readDirective (s : Scan) : Except Fault Scan := do
  let t ← (s.closeBlocks 0).dropCandidate
  let (directive, u) ← cutDirective s.spot.step
  return { t.push (.directive directive) with spot := u, mayKey := false }

def openFlow (s : Scan) (token : Token) : Except Fault Scan := do
  let t ← s.saveCandidate
  return { t.emit 1 token with flow := s.flow + 1, mayKey := true }

def closeFlow (s : Scan) (token : Token) : Except Fault Scan := do
  if s.flow = 0 then refuse
  let t ← s.dropCandidate
  return { t.emit 1 token with flow := s.flow - 1, mayKey := false }

def readComma (s : Scan) : Except Fault Scan := do
  return { (← s.dropCandidate).emit 1 .comma with mayKey := true }

/-- A mark that opens a block collection where no value has been started on the line. -/
def readBlockMark (s : Scan) (opening token : Token) (mayKey : Bool) : Except Fault Scan := do
  if s.flow = 0 && !s.mayKey then refuse
  let t ← (s.openBlock s.spot.column s.read.length opening).dropCandidate
  return { t.emit 1 token with mayKey := mayKey }

/-- A colon. It settles that the candidate is a key, or stands for itself. -/
def readValue (s : Scan) : Except Fault Scan :=
  match s.candidates.find? fun c => c.flow = s.flow with
  | some c =>
      let t := { s with candidates := s.candidates.filter fun d => d.flow ≠ s.flow }
      let u := (t.insert c.token .key).openBlock c.spot.column c.token .blockMapping
      .ok { u.emit 1 .value with mayKey := false }
  | none => s.readBlockMark .blockMapping .value (s.flow = 0)

/-- A token that may be or start a key. -/
def readWord (s : Scan) (cut : Except Fault (Token × Spot)) : Except Fault Scan := do
  let t ← s.saveCandidate
  let (token, u) ← cut
  return { t.push token with spot := u, mayKey := false }

def readPlain (s : Scan) : Except Fault Scan := do
  let t ← s.saveCandidate
  let fuel := s.spot.rest.length + 1
  let (text, u, broken) := cutPlain (s.flow ≠ 0) s.margin fuel s.spot [] [] false
  return { t.push (.scalar (String.ofList text) true) with spot := u, mayKey := broken }

def readQuoted (s : Scan) (double : Bool) : Except Fault Scan :=
  s.readWord do
    let (text, t) ← cutQuoted double (s.spot.rest.length + 1) s.spot.step []
    return (.scalar (String.ofList text) false, t)

def readBlock (s : Scan) (folded : Bool) : Except Fault Scan := do
  let t ← s.dropCandidate
  let (text, u) ← cutBlock folded s.margin s.spot.step
  return { t.push (.scalar (String.ofList text) false) with spot := u, mayKey := true }

/-- The token at a character that is no space. -/
def readToken (s : Scan) (c : Char) (cs : List Char) : Except Fault Scan :=
  let inFlow := s.flow ≠ 0
  let atMarker := s.spot.column = 0 && startsMarker s.spot.rest
  if s.spot.column = 0 && c = '%' then s.readDirective
  else if atMarker then s.readMark 3 (if c = '-' then .documentStart else .documentEnd)
  else if c = '[' then s.openFlow .flowSequence
  else if c = '\x7b' then s.openFlow .flowMapping
  else if c = ']' then s.closeFlow .flowSequenceEnd
  else if c = '\x7d' then s.closeFlow .flowMappingEnd
  else if c = ',' then s.readComma
  else if c = '-' && isGap cs then s.readBlockMark .blockSequence .item true
  else if c = '?' && (inFlow || isGap cs) then s.readBlockMark .blockMapping .key (s.flow = 0)
  else if c = ':' && (inFlow || isGap cs) then s.readValue
  else if c = '*' then
    s.readWord do
      let (name, t) ← cutAnchor s.spot.step
      return (.alias name, t)
  else if c = '&' then
    s.readWord do
      let (name, t) ← cutAnchor s.spot.step
      return (.anchor name, t)
  else if c = '!' then
    s.readWord do
      let (tag, t) ← cutTag s.spot
      return (.tag tag, t)
  else if (c = '|' || c = '>') && !inFlow then s.readBlock (c = '>')
  else if c = singleQuote then s.readQuoted false
  else if c = '"' then s.readQuoted true
  else if startsPlain inFlow s.spot.rest then s.readPlain
  else refuse

def tokensFrom : (fuel : Nat) → Scan → Except Fault (List Token)
  | 0, _ => refuse
  | fuel + 1, s => do
      let t ← s.skipSpace.dropStale
      let u := t.closeBlocks (t.spot.column + 1)
      match u.spot.rest with
      | [] => return (← (u.closeBlocks 0).dropCandidate).read.reverse
      | c :: cs => tokensFrom fuel (← u.readToken c cs)

end Scan

/-- All tokens of a document. Each takes at least one character. -/
def tokens (cs : List Char) : Except Fault (List Token) :=
  Scan.tokensFrom (cs.length + 1) (Scan.start cs)

end Dialogue.Yaml
