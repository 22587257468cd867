import Dialogue.Fault
/-!
Places in a document, and passing over blanks and line breaks.
-/
namespace Dialogue.Yaml

def refuse {α : Type} : Except Fault α := .error .invalidYaml

/-- A place: how many characters and lines come before it, how far it is from the start of its line,
and what follows it. -/
structure Spot where
  index : Nat
  line : Nat
  column : Nat
  rest : List Char
  deriving DecidableEq, Repr

def isBreak (c : Char) : Bool :=
  c = '\n' || c = '\u0085' || c = '\u2028' || c = '\u2029'

/-- The mark of byte order, which takes no room on its line. -/
def isOrderMark (c : Char) : Bool := c = '\ufeff'

def isLineBlank (c : Char) : Bool := c = ' ' || c = '\t'

/-- A line break or the end of the document. -/
def endsLine (cs : List Char) : Bool := cs.head?.all isBreak

/-- A space, a line break or the end. -/
def endsWord (cs : List Char) : Bool := cs.head?.all fun c => c = ' ' || isBreak c

/-- A blank, a line break or the end. -/
def isGap (cs : List Char) : Bool := cs.head?.all fun c => isLineBlank c || isBreak c

/-- The start or the end of a document is marked here. -/
def startsMarker (cs : List Char) : Bool :=
  (['-', '-', '-'].isPrefixOf cs || ['.', '.', '.'].isPrefixOf cs) && isGap (cs.drop 3)

namespace Spot

def step (s : Spot) : Spot :=
  match s.rest with
  | [] => s
  | c :: cs =>
      if isBreak c then ⟨s.index + 1, s.line + 1, 0, cs⟩
      else ⟨s.index + 1, s.line, if isOrderMark c then s.column else s.column + 1, cs⟩

def skip : Nat → Spot → Spot
  | 0, s => s
  | n + 1, s => skip n s.step

/-- The characters of a class at the front, and the place after them. -/
def cutWhile (test : Char → Bool) (s : Spot) : List Char × Spot :=
  let front := s.rest.takeWhile test
  (front, s.skip front.length)

def skipWhile (test : Char → Bool) (s : Spot) : Spot := (s.cutWhile test).2

def skipSpaces (s : Spot) : Spot := s.skipWhile (· = ' ')

def skipComment (s : Spot) : Spot :=
  if s.rest.head? = some '#' then s.skipWhile fun c => !isBreak c else s

/-- A line break as the text it stands for, and the place after it. Only the separators of lines and
paragraphs stand for themselves. -/
def cutBreak (s : Spot) : List Char × Spot :=
  match s.rest with
  | c :: _ =>
      if isBreak c then ([if c = '\u0085' then '\n' else c], s.step) else ([], s)
  | [] => ([], s)

/-- Passes over the rest of a line that holds nothing but a comment. -/
def skipLine (s : Spot) : Except Fault Spot :=
  let t := s.skipSpaces.skipComment
  if endsLine t.rest then .ok t.cutBreak.2 else refuse

theorem skip_rest (n : Nat) (s : Spot) : (s.skip n).rest = s.rest.drop n := by
  induction n generalizing s with
  | zero => simp [skip]
  | succ n ih =>
      rw [skip, ih]
      cases h : s.rest with
      | nil => simp [step, h]
      | cons c cs =>
          simp only [step, h]
          split <;> simp

end Spot

/-- What a line break and the breaks after it stand for: a single one is a space. -/
def foldBreaks (first : List Char) (breaks : List Char) : List Char :=
  if first ≠ ['\n'] then first ++ breaks
  else if breaks.isEmpty then [' ']
  else breaks

end Dialogue.Yaml
