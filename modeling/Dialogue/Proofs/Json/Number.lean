import Dialogue.Json.Reader
import Dialogue.Proofs.Text
/-!
Numbers in JSON notation, and what is read from them.
-/
namespace Dialogue.Json

open Dialogue.Text

/-- An exponent: its mark, a sign or none, and digits. -/
structure Exponent where
  mark : Char
  sign : List Char
  digits : List Char

structure Exponent.Sound (e : Exponent) : Prop where
  mark : e.mark = 'e' ∨ e.mark = 'E'
  sign : e.sign = [] ∨ e.sign = ['+'] ∨ e.sign = ['-']
  digits : e.digits ≠ [] ∧ ∀ c ∈ e.digits, isAsciiDigit c = true

def Exponent.chars (e : Exponent) : List Char := e.mark :: (e.sign ++ e.digits)

def Exponent.value (e : Exponent) : Int :=
  if e.sign = ['-'] then -(decimalValue e.digits : Int) else decimalValue e.digits

/-- A number. An empty fraction is written without a point. -/
structure Literal where
  negative : Bool
  whole : List Char
  fraction : List Char
  exponent : Option Exponent

namespace Literal

structure Sound (l : Literal) : Prop where
  whole : l.whole = ['0'] ∨
    (∃ d ds, l.whole = d :: ds ∧ d ≠ '0') ∧ ∀ c ∈ l.whole, isAsciiDigit c = true
  fraction : ∀ c ∈ l.fraction, isAsciiDigit c = true
  exponent : ∀ e ∈ l.exponent, e.Sound

def fractionChars (l : Literal) : List Char :=
  if l.fraction = [] then [] else '.' :: l.fraction

def exponentChars (l : Literal) : List Char := l.exponent.elim [] Exponent.chars

def chars (l : Literal) : List Char :=
  (if l.negative then ['-'] else []) ++ (l.whole ++ (l.fractionChars ++ l.exponentChars))

/-- The power of ten by which the digits are multiplied. -/
def power (l : Literal) : Int := l.exponent.elim 0 Exponent.value - l.fraction.length

/-- Without a fraction and an exponent it is an integer. -/
def value (l : Literal) : Except Refusal Value :=
  if l.fraction = [] ∧ l.exponent = none then
    if Numeral.maxDigits < l.whole.length then .error (.longInteger l.whole.length)
    else
      let n : Int := decimalValue l.whole
      .ok (.int (if l.negative then -n else n))
  else .ok (.float (Decimal.signed l.negative
    (Decimal.toFloat (decimalValue (l.whole ++ l.fraction)) l.power)))

end Literal

/-- No number goes on in the text. -/
def Stops (tail : List Char) : Prop :=
  ∀ c ∈ tail.head?, isAsciiDigit c = false ∧ c ≠ '.' ∧ c ≠ 'e' ∧ c ≠ 'E'

theorem takeWhile_digits {isDigit : Char → Bool} {digits tail : List Char}
    (h : ∀ c ∈ digits, isDigit c = true) (htail : ∀ c ∈ tail.head?, isDigit c = false) :
    (digits ++ tail).takeWhile isDigit = digits ∧ (digits ++ tail).dropWhile isDigit = tail := by
  rw [List.takeWhile_append_of_pos h, List.dropWhile_append_of_pos h]
  cases tail with
  | nil => simp
  | cons c cs => simp [htail c rfl]

theorem cutSign_append {sign cs : List Char} (hsign : sign = [] ∨ sign = ['+'] ∨ sign = ['-'])
    (h : ∀ c ∈ cs.head?, c ≠ '-' ∧ c ≠ '+') :
    Decimal.cutSign (sign ++ cs) = (decide (sign = ['-']), cs) := by
  rcases hsign with rfl | rfl | rfl
  · rw [List.nil_append]
    unfold Decimal.cutSign
    split
    · exact absurd rfl (h _ rfl).1
    · exact absurd rfl (h _ rfl).2
    · rfl
  · rfl
  · rfl

theorem head_ne_sign {isDigit : Char → Bool} (hsigns : isDigit '-' = false ∧ isDigit '+' = false)
    {digits : List Char} (hne : digits ≠ []) (hdigits : ∀ c ∈ digits, isDigit c = true)
    (tail : List Char) : ∀ c ∈ (digits ++ tail).head?, c ≠ '-' ∧ c ≠ '+' := by
  obtain ⟨d, ds, rfl⟩ := List.exists_cons_of_ne_nil hne
  have hd : isDigit d = true := hdigits d (.head ds)
  rintro c ⟨⟩
  constructor <;> (rintro rfl; simp [hsigns] at hd)

/-- An exponent is cut off, whatever counts as a digit. -/
theorem cutExponent_chars {isDigit : Char → Bool}
    (hsigns : isDigit '-' = false ∧ isDigit '+' = false) {e : Exponent}
    (hmark : e.mark = 'e' ∨ e.mark = 'E') (hsign : e.sign = [] ∨ e.sign = ['+'] ∨ e.sign = ['-'])
    (hne : e.digits ≠ []) (hdigits : ∀ c ∈ e.digits, isDigit c = true) {tail : List Char}
    (htail : ∀ c ∈ tail.head?, isDigit c = false) :
    Decimal.cutExponent isDigit (e.chars ++ tail) = (e.value, tail) := by
  obtain ⟨htake, hdrop⟩ := takeWhile_digits hdigits htail
  have hcut := cutSign_append hsign (head_ne_sign hsigns hne hdigits tail)
  have hempty : e.digits.isEmpty = false := by simp [hne]
  have hmark : (decide (e.mark = 'e') || decide (e.mark = 'E')) = true := by simpa using hmark
  simp only [Decimal.cutExponent, Exponent.chars, List.cons_append, List.append_assoc, hmark, hcut,
    htake, hdrop, hempty, ↓reduceIte, Bool.false_eq_true, Exponent.value, decide_eq_true_eq]

theorem cutExponent_none {tail : List Char} (h : Stops tail) :
    Decimal.cutExponent isAsciiDigit tail = (0, tail) := by
  cases tail with
  | nil => rfl
  | cons c cs => simp [Decimal.cutExponent, (h c rfl).2.2.1, (h c rfl).2.2.2]

theorem Exponent.Sound.cutExponent_eq {e : Exponent} (h : e.Sound) {tail : List Char}
    (htail : Stops tail) :
    Decimal.cutExponent isAsciiDigit (e.chars ++ tail) = (e.value, tail) :=
  cutExponent_chars (by decide) h.mark h.sign h.digits.1 h.digits.2 fun c hc => (htail c hc).1

namespace Literal

variable {l : Literal} {tail : List Char}

theorem Sound.cutExponent_eq (h : l.Sound) (htail : Stops tail) :
    Decimal.cutExponent isAsciiDigit (l.exponentChars ++ tail) =
      (l.exponent.elim 0 Exponent.value, tail) := by
  cases he : l.exponent with
  | none => simpa [exponentChars, he] using cutExponent_none htail
  | some e => simpa [exponentChars, he] using (h.exponent e he).cutExponent_eq htail

/-- What follows the whole part begins with no digit, and what follows the fraction with no point. -/
theorem Sound.exponentChars_head (h : l.Sound) (htail : Stops tail) {c : Char}
    (hc : c ∈ (l.exponentChars ++ tail).head?) : isAsciiDigit c = false ∧ c ≠ '.' := by
  cases he : l.exponent with
  | none =>
      simp only [exponentChars, he, Option.elim_none, List.nil_append] at hc
      exact ⟨(htail c hc).1, (htail c hc).2.1⟩
  | some e =>
      simp only [exponentChars, he, Option.elim_some, Exponent.chars, List.cons_append,
        List.head?_cons, Option.mem_some_iff] at hc
      subst hc
      rcases (h.exponent e he).mark with hm | hm <;> rw [hm] <;> decide

theorem Sound.fractionChars_head (h : l.Sound) (htail : Stops tail) {c : Char}
    (hc : c ∈ (l.fractionChars ++ (l.exponentChars ++ tail)).head?) : isAsciiDigit c = false := by
  unfold fractionChars at hc
  split at hc
  · exact (h.exponentChars_head htail hc).1
  · cases hc
    rfl

theorem Sound.wholeDigits_eq (h : l.Sound) (htail : Stops tail) :
    wholeDigits (l.whole ++ (l.fractionChars ++ (l.exponentChars ++ tail))) = l.whole := by
  rcases h.whole with hw | ⟨⟨d, ds, hw, hd⟩, hdigits⟩
  · rw [hw]
    rfl
  · have htake := (takeWhile_digits hdigits fun c hc => h.fractionChars_head htail hc).1
    unfold wholeDigits
    rw [hw, List.cons_append]
    split
    · rename_i heq
      cases heq
      exact absurd rfl hd
    · rw [← List.cons_append, ← hw, htake]

theorem Sound.fractionDigits_eq (h : l.Sound) (htail : Stops tail) :
    fractionDigits (l.fractionChars ++ (l.exponentChars ++ tail)) = l.fraction := by
  unfold fractionChars
  split
  · rename_i hf
    rw [hf, List.nil_append]
    unfold fractionDigits
    split
    · rename_i heq
      exact absurd rfl (h.exponentChars_head htail (by rw [heq]; rfl)).2
    · rfl
  · exact (takeWhile_digits h.fraction fun c hc => (h.exponentChars_head htail hc).1).1

theorem Sound.whole_ne_nil (h : l.Sound) : l.whole.isEmpty = false := by
  rcases h.whole with hw | ⟨⟨d, ds, hw, -⟩, -⟩ <;> rw [hw] <;> rfl

theorem Sound.whole_head (h : l.Sound) (rest : List Char) :
    (l.whole ++ rest).head? ≠ some '-' := by
  rcases h.whole with hw | ⟨⟨d, ds, hw, -⟩, hdigits⟩
  · rw [hw]
    simp
  · rw [hw]
    rintro ⟨⟩
    exact absurd (hdigits '-' (by simp [hw])) (by decide)

theorem isInteger_iff (l : Literal) :
    (l.fraction.isEmpty && tail.length = (l.exponentChars ++ tail).length) = true ↔
      l.fraction = [] ∧ l.exponent = none := by
  have hnone : tail.length = (l.exponentChars ++ tail).length ↔ l.exponent = none := by
    cases he : l.exponent with
    | none => simp [exponentChars, he]
    | some e =>
        simp [exponentChars, he, Exponent.chars]
        omega
  rw [Bool.and_eq_true, List.isEmpty_iff, decide_eq_true_iff, hnone]

/-- A number is read to its end. -/
theorem Sound.readNumber?_eq (h : l.Sound) (htail : Stops tail) (position : Nat) :
    readNumber? ⟨position, l.chars ++ tail⟩ =
      some (l.value.map fun v => (v, ⟨position + l.chars.length, tail⟩)) := by
  have hnegative : (l.chars ++ tail).head? = some '-' ↔ l.negative = true := by
    unfold chars
    cases l.negative with
    | true => exact ⟨fun _ => rfl, fun _ => rfl⟩
    | false => simpa using h.whole_head (l.fractionChars ++ (l.exponentChars ++ tail))
  have hstart : (if l.negative then (Cursor.mk position (l.chars ++ tail)).skip 1
      else ⟨position, l.chars ++ tail⟩) = ⟨position + if l.negative then 1 else 0,
        l.whole ++ (l.fractionChars ++ (l.exponentChars ++ tail))⟩ := by
    unfold chars
    cases l.negative <;> simp [Cursor.skip]
  have hskip (place : Nat) : (if l.fraction.isEmpty then
      (⟨place, l.fractionChars ++ (l.exponentChars ++ tail)⟩ : Cursor)
      else Cursor.skip ⟨place, l.fractionChars ++ (l.exponentChars ++ tail)⟩
        (l.fraction.length + 1)) =
      ⟨place + l.fractionChars.length, l.exponentChars ++ tail⟩ := by
    unfold fractionChars
    by_cases hf : l.fraction = [] <;> simp [hf, Cursor.skip]
  have hlength : position + l.chars.length = position + (if l.negative then 1 else 0) +
      l.whole.length + l.fractionChars.length + l.exponentChars.length := by
    unfold chars
    cases l.negative <;> simp <;> omega
  have hwhole (place : Nat) : Cursor.skip
      ⟨place, l.whole ++ (l.fractionChars ++ (l.exponentChars ++ tail))⟩ l.whole.length =
      ⟨place + l.whole.length, l.fractionChars ++ (l.exponentChars ++ tail)⟩ := by
    simp [Cursor.skip]
  simp only [readNumber?, hnegative, hstart, h.wholeDigits_eq htail, h.whole_ne_nil, hwhole,
    h.fractionDigits_eq htail, hskip, h.cutExponent_eq htail, isInteger_iff, value, hlength]
  rw [if_neg Bool.false_ne_true, List.length_append, Nat.add_sub_cancel, Bool.decide_eq_true]
  split
  · split <;> rfl
  · rfl

end Literal

end Dialogue.Json
