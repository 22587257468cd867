import Dialogue.Condition
import Dialogue.Proofs.Decimal.Integer
import Dialogue.Proofs.Json.Printed
import Dialogue.Proofs.Slot.Literal
import Dialogue.Proofs.Value.Written
/-!
The three ways in which a condition compares, and the operators that negate each other. Against the
words `true` and `false` only equality is defined, so there no containment holds and none fails.
-/
namespace Dialogue.Condition

open Dialogue.Value

variable {slot value : Value} {literal word : String}

section Modes

theorem comparison?_name (comparison : Comparison) :
    comparison? (.text comparison.name) = some comparison := Comparison.ofName?_name comparison

theorem holds_booleans (hvalue : value.toText = .ok literal) (hword : isBooleanWord literal = true)
    (hslot : slot.toText = .ok word) (comparison : Comparison) :
    holds slot (.text comparison.name) value =
      .ok (compareBooleans comparison (saysTrue word) (saysTrue literal)) := by
  rw [holds, hvalue]
  simp only [bind, Except.bind, hword, hslot, comparison?_name]
  rfl

theorem holds_numbers (hvalue : value.toText = .ok literal) (hword : isBooleanWord literal = false)
    {comparison : Comparison} {test : Float → Float → Bool}
    (htest : comparison.onNumbers? = some test) :
    holds slot (.text comparison.name) value = compareNumbers test slot value := by
  rw [holds, hvalue]
  simp [bind, Except.bind, hword, comparison?_name, htest, hashable]

theorem holds_texts (hvalue : value.toText = .ok literal) (hword : isBooleanWord literal = false)
    {comparison : Comparison} (htest : comparison.onNumbers? = none) :
    holds slot (.text comparison.name) value = compareTexts comparison slot literal := by
  rw [holds, hvalue]
  simp [bind, Except.bind, hword, comparison?_name, htest, hashable]

end Modes

/-- Of the two conditions one holds and the other one does not. -/
def Opposed (slot value : Value) (a b : Comparison) : Prop :=
  ∃ holding, holds slot (.text a.name) value = .ok holding ∧
    holds slot (.text b.name) value = .ok !holding

theorem opposed_equality (hslot : slot.Writable) (hvalue : value.Writable) :
    Opposed slot value .equal .different := by
  obtain ⟨word, hword⟩ := hslot.toText
  obtain ⟨literal, hliteral⟩ := hvalue.toText
  cases hboolean : isBooleanWord literal with
  | true =>
      refine ⟨saysTrue word == saysTrue literal, ?_, ?_⟩
      · exact holds_booleans hliteral hboolean hword .equal
      · exact holds_booleans hliteral hboolean hword .different
  | false =>
      refine ⟨word == literal, ?_, ?_⟩
      · rw [holds_texts hliteral hboolean rfl, compareTexts, hword]
        rfl
      · rw [holds_texts hliteral hboolean rfl, compareTexts, hword]
        rfl

theorem opposed_containment (hslot : slot.Writable) (hliteral : value.toText = .ok literal)
    (hboolean : isBooleanWord literal = false) : Opposed slot value .contains .lacks := by
  obtain ⟨word, hword⟩ := hslot.toText
  rw [Opposed, holds_texts hliteral hboolean rfl, holds_texts hliteral hboolean rfl, compareTexts,
    compareTexts, hword]
  cases slot.isNull with
  | true => exact ⟨false, rfl, rfl⟩
  | false => exact ⟨_, rfl, rfl⟩

/-- Of equality and difference exactly one holds; so does of containment and its negation, unless the
value says `true` or `false`: then neither does. -/
theorem negated_operators_negate (hslot : slot.Writable) (hvalue : value.Writable) :
    Opposed slot value .equal .different ∧
      ∃ literal, value.toText = .ok literal ∧
        (isBooleanWord literal = false → Opposed slot value .contains .lacks) ∧
        (isBooleanWord literal = true →
          holds slot (.text Comparison.contains.name) value = .ok false ∧
            holds slot (.text Comparison.lacks.name) value = .ok false) := by
  obtain ⟨word, hword⟩ := hslot.toText
  obtain ⟨literal, hliteral⟩ := hvalue.toText
  refine ⟨opposed_equality hslot hvalue, literal, hliteral,
    opposed_containment hslot hliteral, fun hboolean => ⟨?_, ?_⟩⟩
  · exact holds_booleans hliteral hboolean hword .contains
  · exact holds_booleans hliteral hboolean hword .lacks

namespace Sample

def tags : Value := .list [.text "new", .int 7, .null]

end Sample

/-- A list is compared by its text. -/
theorem tags_contain_seven :
    Sample.tags.Writable ∧ (Value.int 7).Writable ∧
      holds Sample.tags (.text "contains") (.int 7) = .ok true ∧
      Opposed Sample.tags (.int 7) .equal .different ∧
      Opposed Sample.tags (.int 7) .contains .lacks := by
  have hseven : (Value.int 7).Writable := .int (by decide +kernel)
  have htags : Sample.tags.Writable := .list (by
    simp only [List.forall_mem_cons]
    exact ⟨.text _, hseven, .null, List.forall_mem_nil _⟩)
  obtain ⟨hequality, literal, hliteral, hcontainment, -⟩ := negated_operators_negate htags hseven
  cases hliteral
  exact ⟨htags, hseven, rfl, hequality, hcontainment rfl⟩

/-- Nothing contains the word `true` and nothing lacks it. -/
theorem truth_neither_contained_nor_lacking :
    holds (.text "that is true") (.text "contains") (.text "true") = .ok false ∧
      holds (.text "that is true") (.text "!contains") (.text "true") = .ok false ∧
      ¬ Opposed (.text "that is true") (.text "true") .contains .lacks := by
  have hcontains : holds (.text "that is true") (.text "contains") (.text "true") = .ok false := rfl
  have hlacks : holds (.text "that is true") (.text "!contains") (.text "true") = .ok false := rfl
  refine ⟨hcontains, hlacks, ?_⟩
  rintro ⟨holding, hholding, hother⟩
  cases hcontains.symm.trans hholding
  cases hlacks.symm.trans hother

end Dialogue.Condition

/-!
The order operators on integers. They compare floats, so integers that are rounded to the same float
count as equal; all others stand in their own order.
-/
namespace Dialogue

open Decimal

namespace Comparison

/-- How an order operator compares two integers. -/
def onIntegers? : Comparison → Option (Int → Int → Bool)
  | .greater => some fun a b => b < a
  | .less => some fun a b => a < b
  | .atLeast => some fun a b => b ≤ a
  | .atMost => some fun a b => a ≤ b
  | _ => none

variable {comparison : Comparison} {order : Int → Int → Bool} {a b : Int}

theorem exists_onNumbers? (h : comparison.onIntegers? = some order)
    (hlimit : a.natAbs < floatLimit ∨ b.natAbs < floatLimit) :
    ∃ test, comparison.onNumbers? = some test ∧
      test (floatInt a) (floatInt b) = order (roundInt a) (roundInt b) := by
  cases comparison <;> cases h
  case greater => exact ⟨_, rfl, decide_eq_decide.2 (floatInt_lt_iff hlimit.symm)⟩
  case less => exact ⟨_, rfl, decide_eq_decide.2 (floatInt_lt_iff hlimit)⟩
  case atLeast => exact ⟨_, rfl, decide_eq_decide.2 (floatInt_le_iff hlimit.symm)⟩
  case atMost => exact ⟨_, rfl, decide_eq_decide.2 (floatInt_le_iff hlimit)⟩

/-- Rounding keeps the order of what it keeps apart. -/
theorem order_roundInt (h : comparison.onIntegers? = some order)
    (hapart : roundInt a = roundInt b → a = b) : order (roundInt a) (roundInt b) = order a b := by
  have hup : a ≤ b → roundInt a ≤ roundInt b := roundInt_mono
  have hdown : b ≤ a → roundInt b ≤ roundInt a := roundInt_mono
  cases comparison <;> cases h <;> exact decide_eq_decide.2 (by omega)

end Comparison

namespace Value

theorem number?_of_ofInt? {n : Int} {x : Float} (h : ofInt? n = some x) :
    (Value.int n).number? = .ok (some x) := by
  -- rewriting with the equation would work out the largest float
  unfold number?
  split
  case h_3 m hm =>
    cases hm
    split
    · rename_i hsome
      exact congrArg Except.ok (hsome.symm.trans h)
    · rename_i hnone
      cases hnone.symm.trans h
  case h_5 hint _ => exact (hint n rfl).elim
  all_goals
    rename_i hv
    cases hv

theorem number?_toString (n : Int) :
    (Value.text (toString n)).number? = .ok (some (floatInt n)) := by
  have hread := (Slot.isNumber_of_sound (Json.Literal.sound_ofInt n)).leadingNumber?_eq
  rw [Json.Literal.chars_ofInt] at hread
  have hdigits : Text.decimalValue ((Json.Literal.ofInt n).whole ++
      (Json.Literal.ofInt n).fraction) = n.natAbs := by
    rw [Json.Literal.ofInt, List.append_nil, Text.decimalValue_toDigits]
  rw [hdigits] at hread
  exact congrArg Except.ok hread

/-- The value is the integer, or a text that writes it. Integers beyond the largest float are only
read from texts. -/
inductive Writes (n : Int) : Value → Prop
  | int (limit : n.natAbs < floatLimit) : Writes n (.int n)
  | text : Writes n (.text (toString n))

theorem Writes.number?_eq {n : Int} {v : Value} (h : Writes n v) :
    v.number? = .ok (some (floatInt n)) := by
  cases h with
  | int limit => exact number?_of_ofInt? (ofInt?_eq limit)
  | text => exact number?_toString n

end Value

namespace Condition

variable {comparison : Comparison} {order : Int → Int → Bool} {a b : Int} {slot : Value}

theorem toText_int {n : Int} (h : n.natAbs < floatLimit) :
    (Value.int n).toText = .ok (toString n) := by
  refine Numeral.print_of_lt (h.trans_le ?_)
  rw [floatLimit_eq]
  decide +kernel

theorem isBooleanWord_toString (n : Int) : isBooleanWord (toString n) = false := by
  have hword := (Slot.isNumber_of_sound (Json.Literal.sound_ofInt n)).isBooleanWord_chars
  rwa [Json.Literal.chars_ofInt, String.ofList_toList] at hword

theorem holds_rounded (horder : comparison.onIntegers? = some order) (ha : slot.Writes a)
    (hb : b.natAbs < floatLimit) : holds slot (.text comparison.name) (.int b) =
      .ok (order (roundInt a) (roundInt b)) := by
  obtain ⟨test, htest, heq⟩ := Comparison.exists_onNumbers? (a := a) horder (.inr hb)
  rw [holds_numbers (toText_int hb) (isBooleanWord_toString b) htest, compareNumbers, ha.number?_eq,
    (Value.Writes.int hb).number?_eq, ← heq]
  rfl

/-- Integers are compared by what they are rounded to. The outcome is that of the integers themselves
unless two different ones are rounded to the same, and one with less than 54 binary digits is rounded
to what no other is. -/
theorem integers_compare_rounded (horder : comparison.onIntegers? = some order)
    (ha : slot.Writes a) (hb : b.natAbs < floatLimit) :
    holds slot (.text comparison.name) (.int b) = .ok (order (roundInt a) (roundInt b)) ∧
      ((roundInt a = roundInt b → a = b) →
        holds slot (.text comparison.name) (.int b) = .ok (order a b)) ∧
      (a.natAbs < 2 ^ 53 ∨ b.natAbs < 2 ^ 53 → roundInt a = roundInt b → a = b) := by
  have hrounded := holds_rounded horder ha hb
  refine ⟨hrounded, fun hapart => ?_, eq_of_roundInt_eq⟩
  rw [hrounded, Comparison.order_roundInt horder hapart]

/-- A debt that a text writes is less than a credit. -/
theorem debt_is_less :
    (Value.text "-12").Writes (-12) ∧ (7 : Int).natAbs < floatLimit ∧
      holds (.text "-12") (.text "<") (.int 7) = .ok true := by
  have hdebt : (Value.text "-12").Writes (-12) := .text
  have hcredit : (7 : Int).natAbs < floatLimit := by decide +kernel
  have hless : Comparison.less.onIntegers? = some fun a b => decide (a < b) := rfl
  obtain ⟨-, hexact, hsmall⟩ := integers_compare_rounded hless hdebt hcredit
  exact ⟨hdebt, hcredit, hexact (hsmall (.inl (by decide)))⟩

/-- One more than `2 ^ 53` is not greater than it. -/
theorem next_integer_is_not_greater :
    (2 ^ 53 : Int) < 2 ^ 53 + 1 ∧
      holds (.int (2 ^ 53 + 1)) (.text ">") (.int (2 ^ 53)) = .ok false := by
  refine ⟨by decide, ?_⟩
  have hnext : (2 ^ 53 + 1 : Int).natAbs < floatLimit := by decide +kernel
  have hlast : (2 ^ 53 : Int).natAbs < floatLimit := by decide +kernel
  have hgreater : Comparison.greater.onIntegers? = some fun a b => decide (b < a) := rfl
  have hsame : roundInt (2 ^ 53 + 1) = roundInt (2 ^ 53) := by decide +kernel
  have hholds := holds_rounded hgreater (.int hnext) hlast
  rwa [hsame, decide_eq_false (lt_irrefl _)] at hholds

end Condition

end Dialogue
