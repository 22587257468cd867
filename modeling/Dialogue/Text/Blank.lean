import Dialogue.Text.Digit
/-!
Lines of a text.
-/
namespace Dialogue.Text

/-- Line feeds, carriage returns, the other breaks and separators that end a line. -/
def endsLine (c : Char) : Bool :=
  let n := c.toNat
  (0x0a ≤ n && n ≤ 0x0d) || (0x1c ≤ n && n ≤ 0x1e) || n = 0x85 || n = 0x2028 || n = 0x2029

/-- The lines of a text without their ends. A carriage return and the line feed after it enclose an
empty line. -/
def lines : List Char → List (List Char)
  | [] => [[]]
  | c :: cs =>
      if endsLine c then [] :: lines cs
      else match lines cs with
        | [] => [[c]]
        | line :: rest => (c :: line) :: rest

end Dialogue.Text

/-!
Blanks: the white space and separator characters, and removing them from the ends of a text.
-/
namespace Dialogue.Text

def blankRanges : Ranges := [
  (0x9, 0xd), (0x1c, 0x20), (0x85, 0x85), (0xa0, 0xa0), (0x1680, 0x1680),
  (0x2000, 0x200a), (0x2028, 0x2029), (0x202f, 0x202f), (0x205f, 0x205f), (0x3000, 0x3000)]

def isBlank (c : Char) : Bool := blankRanges.has c.toNat

theorem isBlank_of_isWhitespace {c : Char} (h : c.isWhitespace = true) : isBlank c = true := by
  simp only [Char.isWhitespace, Bool.or_eq_true, decide_eq_true_eq] at h
  rcases h with ((rfl | rfl) | rfl) | rfl <;> decide

def stripLeft (cs : List Char) : List Char := cs.dropWhile isBlank

def stripRight (cs : List Char) : List Char := (cs.reverse.dropWhile isBlank).reverse

/-- The text without the blanks at its two ends. -/
def strip (cs : List Char) : List Char := stripRight (stripLeft cs)

/-- Blanks that may surround a number: all but the four separators of ASCII. -/
def surroundsNumbers (c : Char) : Bool := isBlank c && !(0x1c ≤ c.toNat && c.toNat ≤ 0x1f)

/-- What is left of a text that writes a number. -/
def bareNumber (cs : List Char) : List Char :=
  ((cs.dropWhile surroundsNumbers).reverse.dropWhile surroundsNumbers).reverse

end Dialogue.Text
