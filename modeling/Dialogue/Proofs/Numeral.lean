import Dialogue.Numeral
import Dialogue.Proofs.Text
import Dialogue.Proofs.Text.Blank
/-!
Which runs of digits are read as integers: those of decimal digits only that are not too long. What
has been read can be printed.
-/
namespace Dialogue.Text

variable {cs : List Char} {c : Char}

/-- Characters for digits are no blanks: their intervals of code points are apart. -/
theorem isBlank_of_isDigit (h : isDigit c = true) : isBlank c = false := by
  rcases Bool.or_eq_true_iff.1 h with hdecimal | hloose
  · exact isBlank_of_isDecimal hdecimal
  · rw [Bool.eq_false_iff]
    intro hblank
    obtain ⟨range, hrange, hlow, hhigh⟩ := Ranges.has_iff.1 hblank
    obtain ⟨other, hother, hlow', hhigh'⟩ := Ranges.has_iff.1 hloose
    have hapart : ∀ other ∈ looseDigitRanges, ∀ range ∈ blankRanges,
        range.2 < other.1 ∨ other.2 < range.1 := by decide
    have := hapart other hother range hrange
    omega

theorem decimalValue_lt (cs : List Char) : decimalValue cs < 10 ^ cs.length := by
  induction cs using List.reverseRecOn with
  | nil => exact Nat.one_pos
  | append_singleton cs c ih =>
      have hdigit : (digit? c).getD 0 < 10 := by
        cases hc : digit? c with
        | none => exact Nat.zero_lt_succ 9
        | some n => exact digit?_lt_ten hc
      have hlast : decimalValue [c] = (digit? c).getD 0 := by simp [decimalValue]
      rw [decimalValue_append, hlast, List.length_append, List.length_singleton, pow_one, pow_succ]
      omega

theorem joinDigits?_eq (h : '_' ∉ cs) (afterDigit : Bool) :
    Decimal.joinDigits? afterDigit cs = some cs := by
  induction cs generalizing afterDigit with
  | nil => rfl
  | cons c cs ih =>
      simp only [List.mem_cons, not_or] at h
      unfold Decimal.joinDigits?
      split
      · rename_i heq
        cases heq
      · rename_i heq
        exact absurd (List.cons.inj heq).1.symm h.1
      · rename_i heq
        cases heq
        rw [ih h.2]
        rfl

end Dialogue.Text

namespace Dialogue.Numeral

open Dialogue.Text

variable {digits : List Char}

def signed (negative : Bool) (n : Nat) : Int := if negative then -(n : Int) else n

@[simp] theorem signed_false (n : Nat) : signed false n = n := rfl

@[simp] theorem signed_true (n : Nat) : signed true n = -(n : Int) := rfl

theorem natAbs_signed (negative : Bool) (n : Nat) : (signed negative n).natAbs = n := by
  cases negative
  · rfl
  · exact Int.natAbs_neg n

theorem ofSignedDigits_of_le (h : digits.length ≤ maxDigits) (negative : Bool) :
    ofSignedDigits negative digits = .ok (signed negative (decimalValue digits)) := by
  rw [ofSignedDigits, ofDigits, if_neg (Nat.not_lt.2 h)]
  rfl

theorem ofSignedDigits_of_lt (h : maxDigits < digits.length) (negative : Bool) :
    ofSignedDigits negative digits = .error (.malformed (.longInteger digits.length)) := by
  rw [ofSignedDigits, ofDigits, if_pos h]
  rfl

/-- Among characters for digits only the decimal ones write a number. -/
theorem parse_digits (hne : digits ≠ []) (h : ∀ c ∈ digits, isDigit c = true) :
    parse digits =
      if digits.all isDecimal then ofSignedDigits false digits
      else .error (.malformed (.numeral (String.ofList digits))) := by
  have hbare : bareNumber digits = digits :=
    bareNumber_eq_self (trimmed_of_not_blank fun c hc => isBlank_of_isDigit (h c hc))
  have hjoin : Decimal.joinDigits? false digits = some digits :=
    joinDigits?_eq (fun hmem => absurd (h _ hmem) (by decide)) false
  have hcut : Decimal.cutSign digits = (false, digits) := by
    unfold Decimal.cutSign
    split
    · exact absurd (h _ (.head _)) (by decide)
    · exact absurd (h _ (.head _)) (by decide)
    · rfl
  simp only [parse, hbare, hcut, hjoin]
  cases digits.all isDecimal <;> simp [hne]

theorem toString_eq (n : Int) :
    toString n = if n < 0 then "-" ++ toString n.natAbs else toString n.natAbs := by
  cases n with
  | ofNat n =>
      rw [if_neg (show ¬ Int.ofNat n < 0 from Int.not_lt.2 (Int.natCast_nonneg n))]
      rfl
  | negSucc n =>
      rw [if_pos (Int.negSucc_lt_zero n)]
      rfl

theorem maxDigits_lt_iff (n : Nat) : maxDigits < (toString n).length ↔ 10 ^ maxDigits ≤ n := by
  rw [Nat.toString_eq_repr, ← Nat.not_le, Nat.length_repr_le_iff (by decide), Nat.not_lt]

theorem print_of_lt {n : Int} (h : n.natAbs < 10 ^ maxDigits) : print n = .ok (toString n) := by
  rw [print, if_neg (mt (maxDigits_lt_iff _).1 (Nat.not_le.2 h)), toString_eq]

theorem print_of_le {n : Int} (h : 10 ^ maxDigits ≤ n.natAbs) :
    print n = .error (.malformed .unprintableInteger) := by
  rw [print, if_pos ((maxDigits_lt_iff _).2 h)]

theorem exists_print {n : Int} (h : n.natAbs < 10 ^ maxDigits) : ∃ s, print n = .ok s :=
  ⟨_, print_of_lt h⟩

theorem exists_print_signed (h : digits.length ≤ maxDigits) (negative : Bool) :
    ∃ s, print (signed negative (decimalValue digits)) = .ok s := by
  apply exists_print
  rw [natAbs_signed]
  exact (decimalValue_lt digits).trans_le (Nat.pow_le_pow_right (by decide) h)

end Dialogue.Numeral
