/-!
What a reader of JSON text objects to, and where.
-/
namespace Dialogue.Json

inductive Complaint where
  | noValue
  | noPropertyName
  | noColon
  | noComma
  | extraData
  | controlCharacter
  | badEscape
  | badUnicodeEscape
  | unterminated
  | byteOrderMark
  deriving DecidableEq, Repr

def Complaint.message : Complaint → String
  | .noValue => "Expecting value"
  | .noPropertyName => "Expecting property name enclosed in double quotes"
  | .noColon => "Expecting ':' delimiter"
  | .noComma => "Expecting ',' delimiter"
  | .extraData => "Extra data"
  | .controlCharacter => "Invalid control character at"
  | .badEscape => "Invalid \\escape"
  | .badUnicodeEscape => "Invalid \\uXXXX escape"
  | .unterminated => "Unterminated string starting at"
  | .byteOrderMark => "Unexpected UTF-8 BOM (decode using utf-8-sig)"

/-- A complaint at a position of a text; the first line and column are one, the first position is
zero. -/
structure SyntaxError where
  complaint : Complaint
  line : Nat
  column : Nat
  position : Nat
  deriving DecidableEq, Repr

def SyntaxError.message (e : SyntaxError) : String :=
  e.complaint.message ++ ": line " ++ toString e.line ++ " column " ++ toString e.column ++
    " (char " ++ toString e.position ++ ")"

/-- The complaint about the character of `text` at `position`. -/
def SyntaxError.at (complaint : Complaint) (text : List Char) (position : Nat) : SyntaxError :=
  let before := text.take position
  { complaint
    line := before.count '\n' + 1
    column := (before.reverse.takeWhile (· ≠ '\n')).length + 1
    position }

end Dialogue.Json
