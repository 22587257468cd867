import Dialogue.Text.Word
import Dialogue.Text.Digit
import Dialogue.Text.Blank
import Dialogue.Text.Fold
/-!
What a single character of a text has to satisfy.
-/
namespace Dialogue.Regex

open Dialogue.Text

inductive Category where
  | digit
  | blank
  | word
  deriving DecidableEq, Repr

/-- A member of a set of characters. -/
inductive Item where
  | code (n : Nat)
  | range (low high : Nat)
  | category (kind : Category) (negated : Bool)
  deriving DecidableEq, Repr

inductive Shape where
  | any (breaks : Bool)
  | code (n : Nat) (negated : Bool)
  | set (items : List Item) (negated : Bool)
  deriving DecidableEq, Repr

/-- With `fold` letters that differ in case only count as the same. With `ascii` all classes and
case pairs keep to ASCII. -/
structure Test where
  shape : Shape
  fold : Bool
  ascii : Bool
  deriving DecidableEq, Repr

def isAsciiBlank (c : Char) : Bool := c = ' ' || (9 ≤ c.toNat && c.toNat ≤ 13)

def Category.has (kind : Category) (ascii : Bool) (c : Char) : Bool :=
  match kind with
  | .digit => if ascii then isAsciiDigit c else isDecimal c
  | .blank => if ascii then isAsciiBlank c else isBlank c
  | .word => if ascii then isAsciiWord c else isWord c

/-- The last code point whose case pairs are listed one by one. -/
def lastListed : Nat := 0xffff

def asciiLetters : Ranges := [(0x41, 0x5a), (0x61, 0x7a)]

/-- The letters that have another case. -/
def paired (ascii : Bool) : Ranges := if ascii then asciiLetters else pairedRanges

/-- Whether ignoring case makes a difference to a member of a set. -/
def Item.isPaired (ascii : Bool) : Item → Bool
  | .code n => (paired ascii).has n
  | .range low high =>
      lastListed < high || (paired ascii).any fun range => low ≤ range.2 && range.1 ≤ high
  | .category _ _ => false

def Shape.isPaired (ascii : Bool) : Shape → Bool
  | .any _ => false
  | .code n _ => (paired ascii).has n
  | .set items _ => items.any (Item.isPaired ascii)

/-- A test that ignores case only where that makes a difference. -/
def Test.make (shape : Shape) (fold ascii : Bool) : Test :=
  ⟨shape, fold && shape.isPaired ascii, ascii⟩

def lowChar (ascii : Bool) (c : Char) : Char := if ascii then c.toLower else lowerChar c

/-- The lower forms that count as the same letter as `low`. -/
def sameLetter (ascii : Bool) (low : Char) : List Char :=
  if ascii then [low] else low :: variantsOf low

/-- All characters that count as the same letter as `low`, which is in lower case. -/
def origins (ascii : Bool) (low : Char) : List Char :=
  if ascii then [low, low.toUpper] else (sameLetter ascii low).flatMap sameLower

/-- Whether `c` is the letter at the code point `n`, case aside. -/
def isLetterAt (ascii : Bool) (n : Nat) (c : Char) : Bool :=
  if n.isValidChar then (sameLetter ascii (lowChar ascii (Char.ofNat n))).contains (lowChar ascii c)
  else false

def inRange (low high : Nat) (c : Char) : Bool := low ≤ c.toNat && c.toNat ≤ high

def Item.has (ascii : Bool) (item : Item) (c : Char) : Bool :=
  match item with
  | .code n => c.toNat = n
  | .range low high => inRange low high c
  | .category kind negated => kind.has ascii c != negated

/-- Whether a character in lower case is a member of a set that ignores case. Beyond the listed
code points a single member stands for itself, and a range for itself and the lower forms. -/
def Item.hasLow (ascii : Bool) (item : Item) (low : Char) : Bool :=
  match item with
  | .code n => if n ≤ lastListed then isLetterAt ascii n low else low.toNat = n
  | .range first last =>
      (origins ascii low).any (inRange first (min last lastListed)) ||
        (lastListed < last &&
          (inRange first last low || inRange first last (shiftCase upperRuns low)))
  | .category kind negated => kind.has ascii low != negated

def Test.has (test : Test) (c : Char) : Bool :=
  match test.shape with
  | .any breaks => breaks || c ≠ '\n'
  | .code n negated =>
      (if test.fold then isLetterAt test.ascii n c else c.toNat = n) != negated
  | .set items negated =>
      (if test.fold then items.any fun item => item.hasLow test.ascii (lowChar test.ascii c)
       else items.any fun item => item.has test.ascii c) != negated

theorem Test.has_code {n : Nat} {negated ascii : Bool} {c : Char} :
    Test.has ⟨.code n negated, false, ascii⟩ c = (decide (c.toNat = n) != negated) := rfl

end Dialogue.Regex

/-!
Regular expressions, and the least and greatest number of characters that they take.
-/
namespace Dialogue

namespace Regex

inductive Anchor where
  | textStart
  | textEnd
  | lineStart
  | lineEnd
  | lastLineEnd
  | boundary (ascii negated : Bool)
  deriving DecidableEq, Repr

inductive Greed where
  | greedy
  | lazy
  | possessive
  deriving DecidableEq, Repr

end Regex

/-- A repetition without a greatest count has `none` for `most`. A group without a number holds
options only. Looking behind starts `behind` characters back. -/
inductive Regex where
  | one (test : Regex.Test)
  | anchor (place : Regex.Anchor)
  | sequence (parts : List Regex)
  | choice (alternatives : List Regex)
  | group (number : Option Nat) (body : Regex)
  | atomic (body : Regex)
  | repeated (greed : Regex.Greed) (least : Nat) (most : Option Nat) (body : Regex)
  | look (behind : Option Nat) (negated : Bool) (body : Regex)
  | sameAs (number : Nat) (fold ascii : Bool)
  | ifGroup (number : Nat) (yes no : Regex)
  deriving Inhabited

namespace Regex

/-- The least and the greatest number of characters; `none` is no greatest number. -/
structure Width where
  least : Nat
  most : Option Nat
  deriving DecidableEq, Repr

def Width.add (a b : Width) : Width :=
  ⟨a.least + b.least, do return (← a.most) + (← b.most)⟩

def Width.join (a b : Width) : Width :=
  ⟨min a.least b.least, do return max (← a.most) (← b.most)⟩

def Width.times (w : Width) (least : Nat) (most : Option Nat) : Width :=
  ⟨w.least * least,
    match w.most, most with
    | some 0, _ => some 0
    | some n, some m => some (n * m)
    | _, some 0 => some 0
    | _, _ => none⟩

mutual

/-- The width of an expression, given that of the groups it refers to. -/
def width (groups : List (Nat × Width)) : Regex → Width
  | .one _ => ⟨1, some 1⟩
  | .anchor _ | .look _ _ _ => ⟨0, some 0⟩
  | .sequence parts => sequenceWidth groups parts
  | .choice alternatives => choiceWidth groups alternatives
  | .group _ body | .atomic body => width groups body
  | .repeated _ least most body => (width groups body).times least most
  | .sameAs number _ _ => (groups.lookup number).getD ⟨0, some 0⟩
  | .ifGroup _ yes no => (width groups yes).join (width groups no)

def sequenceWidth (groups : List (Nat × Width)) : List Regex → Width
  | [] => ⟨0, some 0⟩
  | part :: parts => (width groups part).add (sequenceWidth groups parts)

def choiceWidth (groups : List (Nat × Width)) : List Regex → Width
  | [] => ⟨0, some 0⟩
  | [alternative] => width groups alternative
  | alternative :: alternatives =>
      (width groups alternative).join (choiceWidth groups alternatives)

end

/-- The expression that parts make one after the other. -/
def ofParts : List Regex → Regex
  | [part] => part
  | parts => .sequence parts

/-- The test of an expression that is a single character. -/
def single? : Regex → Option Test
  | .one test => some test
  | .group none body => single? body
  | _ => none

/-- Equal parts that take no account of what other parts hold. -/
def same : Regex → Regex → Bool
  | .one a, .one b => a = b
  | .anchor a, .anchor b => a = b
  | .sameAs a fold ascii, .sameAs b fold' ascii' => a = b && fold = fold' && ascii = ascii'
  | _, _ => false

theorem width_ofParts (groups : List (Nat × Width)) (parts : List Regex) :
    (ofParts parts).width groups = sequenceWidth groups parts := by
  match parts with
  | [] => simp [ofParts, width]
  | [part] =>
      simp [ofParts, sequenceWidth, Width.add]
  | a :: b :: rest => simp [ofParts, width]

theorem width_of_single {groups : List (Nat × Width)} {e : Regex} {test : Test}
    (h : e.single? = some test) : e.width groups = ⟨1, some 1⟩ := by
  fun_induction single? e with
  | case1 => simp [width]
  | case2 body ih => simp [width, ih h]
  | case3 => simp at h

end Regex

end Dialogue
