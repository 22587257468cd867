import Dialogue.Regex.Escape
import Dialogue.Regex.Search
import Dialogue.Text.Identifier
import Dialogue.Numeral
/-!
Reading regular expressions from their written form.
-/
namespace Dialogue.Regex

open Dialogue.Text

/-- The least and greatest number of rounds after an opening brace; `none` if the brace stands for
itself. -/
def readBounds : Reader (Option (Nat × Option Nat)) := do
  let start ← get
  let limit := start.rest.length
  if (← peek) = some (.plain '\x7d') then return none
  let low ← readWhile isAsciiDigit limit
  let pair ← accept ','
  let high ← if pair then readWhile isAsciiDigit limit else pure low
  if !(← accept '\x7d') then
    set start
    return none
  let number (digits : List Char) : Reader Nat := do
    if Numeral.maxDigits < digits.length then throw (.longNumber digits.length)
    let n := inBase 10 digits
    if 4294967295 ≤ n then throw .overflow
    return n
  let least ← if low.isEmpty then pure 0 else number low
  if high.isEmpty then return some (least, none)
  let most ← number high
  if most < least then refuse
  return some (least, some most)

def readGreed : Reader Greed := do
  if ← accept '?' then return .lazy
  if ← accept '+' then return .possessive
  return .greedy

/-- What has been read of a sequence; anchors and repetitions cannot be repeated. A group without
options is the row of its parts. -/
structure Piece where
  parts : List Regex
  repeatable : Bool

def Piece.of (body : Regex) : Piece := ⟨[body], true⟩

/-- The parts of pieces that go from the last one to the first. -/
def partsOf (pieces : List Piece) : List Regex := pieces.reverse.flatMap Piece.parts

/-- Repeats the last piece; `pieces` holds the last one first. -/
def repeatLast (least : Nat) (most : Option Nat) (pieces : List Piece) : Reader (List Piece) := do
  match pieces with
  | [] => refuse
  | last :: before =>
      if !last.repeatable then refuse
      let greed ← readGreed
      modify fun p => { p with repeats := true }
      return ⟨[.repeated greed least most (ofParts last.parts)], false⟩ :: before

/-- Letters of options up to one of the marks that may follow them. -/
def readOptionLetters : (limit : Nat) → (stops : List Char) → (c : Char) →
    Reader (List Char × Char)
  | 0, _, _ => refuse
  | limit + 1, stops, c => do
      if !knownOptions.contains c then refuse
      match ← advance with
      | some (.plain d) =>
          if stops.contains d then return ([c], d)
          let (letters, stop) ← readOptionLetters limit stops d
          return (c :: letters, stop)
      | _ => refuse

/-- The options that a group turns on and off, from their first character; `none` if they hold for
the whole expression. -/
def readOptions (c : Char) : Reader (Option (Options × Options)) := do
  let limit := (← get).rest.length + 1
  let (on, stop) ←
    if c = '-' then pure ([], '-') else readOptionLetters limit [')', '-', ':'] c
  if on.contains 'L' || (on.contains 'a' && on.contains 'u') then refuse
  if stop = ')' then
    modify fun p => { p with options := p.options ++ on }
    return none
  if on.contains 't' then refuse
  if stop = ':' then return some (on, [])
  match ← advance with
  | some (.plain d) =>
      let (off, _) ← readOptionLetters limit [':'] d
      if off.any isAlphabet || off.contains 't' || on.any off.contains then refuse
      return some (on, off)
  | _ => refuse

def skipComment : (limit : Nat) → Reader Unit
  | 0 => refuse
  | limit + 1 => do
      match ← advance with
      | none => refuse
      | some token => if token = .plain ')' then return () else skipComment limit

def skipLine : (limit : Nat) → Reader Unit
  | 0 => return ()
  | limit + 1 => do
      match ← advance with
      | none => return ()
      | some token => if token = .plain '\n' then return () else skipLine limit

/-- Opens a group, with its name if it has one. -/
def openGroup (name : Option (List Char)) : Reader Nat := do
  let number := (← get).opened + 1
  modify fun p => { p with opened := number }
  match name with
  | none => return number
  | some name =>
      let name := String.ofList name
      if ((← get).names.lookup name).isSome then refuse
      modify fun p => { p with names := (name, number) :: p.names }
      return number

def closeGroup (number : Nat) (body : Regex) : Reader Unit :=
  modify fun p => { p with widths := (number, body.width p.widths) :: p.widths }

/-- The longest way to look behind. -/
def maxBehind : Nat := Nat.pow 2 32 - 1

/-- How far an expression looks behind; it has to be of one width. -/
def widthBehind (body : Regex) : Reader Nat := do
  let width := body.width (← get).widths
  if width.most ≠ some width.least || maxBehind < width.least then
    modify fun p => { p with unevenBehind := true }
  return width.least

/-- The number of the group that a condition names. -/
def conditionGroup (name : List Char) : Reader Nat := do
  if isIdentifier name then
    match (← get).names.lookup (String.ofList name) with
    | some number => return number
    | none => refuse
  match Numeral.parse name with
  | .ok n =>
      if n ≤ 0 || 1073741823 ≤ n then refuse
      modify fun p => { p with mentioned := n.toNat :: p.mentioned }
      return n.toNat
  | .error _ => refuse

/-- How a group begins. -/
inductive Opening where
  | capture (name : Option (List Char))
  | plain (on off : Options)
  | atomic
  | look (behind negated : Bool)
  | condition
  | reference (name : List Char)
  | comment
  | globalOptions

/-- A group that starts with a question mark. -/
def readSpecialOpening : Reader Opening := do
  match ← advance with
  | some (.plain 'P') =>
      if ← accept '<' then
        let name ← readName '>'
        if !isIdentifier name then refuse
        return .capture (some name)
      else if ← accept '=' then
        let name ← readName ')'
        if !isIdentifier name then refuse
        return .reference name
      else refuse
  | some (.plain ':') => return .plain [] []
  | some (.plain '#') => return .comment
  | some (.plain '=') => return .look false false
  | some (.plain '!') => return .look false true
  | some (.plain '<') =>
      match ← advance with
      | some (.plain '=') => return .look true false
      | some (.plain '!') => return .look true true
      | _ => refuse
  | some (.plain '(') => return .condition
  | some (.plain '>') => return .atomic
  | some (.plain c) =>
      if knownOptions.contains c || c = '-' then
        match ← readOptions c with
        | some (on, off) => return .plain on off
        | none => return .globalOptions
      else refuse
  | _ => refuse

def readOpening : Reader Opening := do
  if ← accept '?' then readSpecialOpening else return .capture none

/-- The options that hold for a sequence: those of the whole expression, unless it is inside a
group. -/
def currentOptions (scope : Option Options) : Reader Options := do
  match scope with
  | some options => return options
  | none => return (← get).options

def isSpace (c : Char) : Bool := isAsciiBlank c

mutual

/-- The rows of alternatives up to a closing parenthesis or the end. -/
def readAlternatives : (fuel : Nat) → (scope : Option Options) → (first : Bool) →
    Reader (List (List Regex))
  | 0, _, _ => refuse
  | fuel + 1, scope, first => do
      let row := partsOf (← readPieces fuel scope first [])
      if ← accept '|' then return row :: (← readAlternatives fuel scope false)
      else return [row]

/-- The pieces of a sequence, last one first. -/
def readPieces : (fuel : Nat) → (scope : Option Options) → (first : Bool) →
    (pieces : List Piece) → Reader (List Piece)
  | 0, _, _, _ => refuse
  | fuel + 1, scope, first, pieces => do
      let options ← currentOptions scope
      match ← peek with
      | none | some .dangling => return pieces
      | some (.escaped c) => do
          let _ ← advance
          let body ← readEscape options c
          let isAnchor := match body with
            | .anchor _ => true
            | _ => false
          readPieces fuel scope first (⟨[body], !isAnchor⟩ :: pieces)
      | some (.plain c) => do
          if c = '|' || c = ')' then return pieces
          let _ ← advance
          let limit := (← get).rest.length + 1
          let onward := fun (piece : Piece) => readPieces fuel scope first (piece :: pieces)
          if options.contains 'x' && isSpace c then readPieces fuel scope first pieces
          else if options.contains 'x' && c = '#' then
            skipLine limit
            readPieces fuel scope first pieces
          else
            match c with
            | '[' => onward (.of (← readSet options))
            | '?' => readPieces fuel scope first (← repeatLast 0 (some 1) pieces)
            | '*' => readPieces fuel scope first (← repeatLast 0 none pieces)
            | '+' => readPieces fuel scope first (← repeatLast 1 none pieces)
            | '\x7b' =>
                match ← readBounds with
                | some (least, most) =>
                    readPieces fuel scope first (← repeatLast least most pieces)
                | none => onward (.of (testOf options false [.code 123]))
            | '.' => onward (.of (.one ⟨.any (options.contains 's'), false, false⟩))
            | '^' =>
                let place := if options.contains 'm' then Anchor.lineStart else .textStart
                onward ⟨[.anchor place], false⟩
            | '$' =>
                let place := if options.contains 'm' then Anchor.lineEnd else .lastLineEnd
                onward ⟨[.anchor place], false⟩
            | '(' =>
                match ← readOpening with
                | .comment =>
                    skipComment limit
                    readPieces fuel scope first pieces
                | .globalOptions =>
                    if !first || scope.isSome || !pieces.isEmpty then refuse
                    readPieces fuel scope first pieces
                | .reference name =>
                    match (← get).names.lookup (String.ofList name) with
                    | some number => onward (.of (← readReference options number))
                    | none => refuse
                | opening => onward ⟨← readGroup fuel options opening, true⟩
            | _ => onward (.of (testOf options false [.code c.toNat]))

/-- The rest of a group from after its opening, as a row of parts. -/
def readGroup : (fuel : Nat) → (options : Options) → Opening → Reader (List Regex)
  | 0, _, _ => refuse
  | fuel + 1, options, opening => do
      match opening with
      | .capture name =>
          let number ← openGroup name
          let body ← readBody fuel options
          closeGroup number body
          return [.group (some number) body]
      | .plain [] [] => readRows fuel options
      | .plain on off => return [.group none (← readBody fuel (options.scope on off))]
      | .atomic => return [.atomic (← readBody fuel options)]
      | .look behind negated =>
          let outer := (← get).behind
          if behind && outer.isNone then
            modify fun p => { p with behind := some p.opened }
          let rows ← readAlternatives fuel (some options) false
          if behind then modify fun p => { p with behind := outer }
          require ')'
          let body := ofParts (joinAlternatives options rows)
          let back ← if behind then (widthBehind body).map some else pure none
          return [.look back negated body]
      | .condition =>
          let number ← conditionGroup (← readName ')')
          checkBehind number
          let yes ← readPieces fuel (some options) false []
          let no ← if ← accept '|' then readPieces fuel (some options) false [] else pure []
          require ')'
          return [.ifGroup number (ofParts (partsOf yes)) (ofParts (partsOf no))]
      | _ => refuse

/-- Alternatives and the parenthesis that closes them. -/
def readRows : (fuel : Nat) → (options : Options) → Reader (List Regex)
  | 0, _ => refuse
  | fuel + 1, options => do
      let rows ← readAlternatives fuel (some options) false
      require ')'
      return joinAlternatives options rows

def readBody : (fuel : Nat) → (options : Options) → Reader Regex
  | 0, _ => refuse
  | fuel + 1, options => return ofParts (← readRows fuel options)

end

def readAll (fuel : Nat) : Reader Regex := do
  checkNext
  let rows ← readAlternatives fuel none true
  let p ← get
  if p.options.contains 'a' && p.options.contains 'u' then throw .mixedAlphabets
  if !p.rest.isEmpty then refuse
  if p.mentioned.any (p.opened < ·) then refuse
  if p.options.contains 't' && p.repeats then refuse
  if p.unevenBehind then refuse
  return ofParts (joinAlternatives p.options rows)

/-- The pattern that a text writes. -/
def Pattern.read (cs : List Char) : Except Refusal Pattern := do
  let start : Progress := ⟨tokens cs, [], 0, [], [], none, [], false, false⟩
  let (body, last) ← (readAll (6 * cs.length + 10)).run start
  return ⟨body, startOf (last.options.contains 'a') (body.width last.widths) body⟩

end Dialogue.Regex
