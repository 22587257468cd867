import Dialogue.Format.Field
import Dialogue.Format.Layout
/-!
Templates with fields in braces, `{name!conversion:layout}`, and filling them in. Doubled braces
stand for single ones. A layout may have fields of its own, but these may not.
-/
namespace Dialogue.Format

open Dialogue.Text

/-- A part of a template. One that cannot be read breaks off. -/
inductive Piece where
  | literal (c : Char)
  | field (name : List Char) (conversion : Option Char) (layout : List Char)
  | broken
  deriving DecidableEq, Repr

/-- Where reading is: outside of fields, or in a part of one. What has been read of the part goes
from the last character to the first; `depth` counts the braces that are open. -/
inductive Place where
  | outside
  | name (bracketed : Bool) (read : List Char)
  | mark (name : List Char)
  | marked (name : List Char) (conversion : Char)
  | layout (name : List Char) (conversion : Option Char) (depth : Nat) (read : List Char)

def pieces : Place → List Char → List Piece
  | .outside, [] => []
  | .outside, '\x7b' :: '\x7b' :: cs => .literal '\x7b' :: pieces .outside cs
  | .outside, '\x7d' :: '\x7d' :: cs => .literal '\x7d' :: pieces .outside cs
  | .outside, '\x7b' :: cs => pieces (.name false []) cs
  | .outside, '\x7d' :: _ => [.broken]
  | .outside, c :: cs => .literal c :: pieces .outside cs
  | .name false read, '\x7d' :: cs => .field read.reverse none [] :: pieces .outside cs
  | .name false read, ':' :: cs => pieces (.layout read.reverse none 1 []) cs
  | .name false read, '!' :: cs => pieces (.mark read.reverse) cs
  | .name false _, '\x7b' :: _ => [.broken]
  | .name false read, c :: cs => pieces (.name (c = '[') (c :: read)) cs
  | .name true read, c :: cs => pieces (.name (c ≠ ']') (c :: read)) cs
  | .mark name, c :: cs => pieces (.marked name c) cs
  | .marked name conversion, '\x7d' :: cs =>
      .field name (some conversion) [] :: pieces .outside cs
  | .marked name conversion, ':' :: cs => pieces (.layout name (some conversion) 1 []) cs
  | .layout name conversion depth read, c :: cs =>
      if c = '\x7b' then pieces (.layout name conversion (depth + 1) (c :: read)) cs
      else if c = '\x7d' then
        if depth ≤ 1 then .field name conversion read.reverse :: pieces .outside cs
        else pieces (.layout name conversion (depth - 1) (c :: read)) cs
      else pieces (.layout name conversion depth (c :: read)) cs
  | _, _ => [.broken]

/-- A text with all but ASCII characters escaped. -/
def asciiOnly (s : String) : String :=
  String.ofList (s.toList.flatMap fun c => if c.toNat < 0x80 then [c] else escapeChar c)

def Subject.display : Subject → Except Fault String
  | .value v => v.display
  | .kind label => .ok (kindText label)

def Subject.inner : Subject → Except Fault String
  | .value v => v.inner
  | .kind label => .ok (kindText label)

/-- A field's value as a text, as a text in quotes, or as that in ASCII. -/
def Subject.convert (subject : Subject) : Char → Except Fault Subject
  | 's' => do return .value (.text (← subject.display))
  | 'r' => do return .value (.text (← subject.inner))
  | 'a' => do return .value (.text (asciiOnly (← subject.inner)))
  | _ => .error (.malformed .template)

def Subject.lay (spec : List Char) : Subject → Except Fault (List Char)
  | .value v => layout spec v
  | .kind label =>
      if spec.isEmpty then .ok (kindText label).toList
      else .error (.clash (.lacksLayout .null))

/-- Fills in the pieces of a template; `depth` bounds how deep fields stand inside layouts. -/
def fillPieces (args : Mapping Value) : (depth : Nat) → List Piece → Except Fault (List Char)
  | 0, _ => .error (.malformed .template)
  | depth + 1, parts => do
      let texts ← parts.mapM fun part => match part with
        | .literal c => pure [c]
        | .broken => .error (.malformed .template)
        | .field name conversion spec => do
            let found ← find args name
            let subject ← match conversion with
              | some mark => found.convert mark
              | none => pure found
            let spec ←
              if spec.contains '\x7b' then fillPieces args depth (pieces .outside spec)
              else pure spec
            subject.lay spec
      return texts.flatten

def fill (template : String) (args : Mapping Value) : Except Fault String := do
  return String.ofList (← fillPieces args 2 (pieces .outside template.toList))

theorem pieces_of_plain {cs : List Char} (h : ∀ c ∈ cs, c ≠ '\x7b' ∧ c ≠ '\x7d') :
    pieces .outside cs = cs.map .literal := by
  induction cs with
  | nil => simp [pieces]
  | cons c cs ih =>
      have hc := h c (by simp)
      have hcs := ih fun d hd => h d (by simp [hd])
      rw [pieces, hcs]
      · rfl
      all_goals simp_all

end Dialogue.Format
