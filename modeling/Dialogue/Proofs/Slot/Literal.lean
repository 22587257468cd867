import Dialogue.Proofs.Json.Number
import Dialogue.Proofs.Numeral
import Dialogue.Slot.Coercion
/-!
Numbers as texts for a slot write them. Other than in JSON, digits of every script may follow the
first one, and a fraction may stand without a whole part.
-/
namespace Dialogue.Slot

open Dialogue.Text

/-- A lone zero, or digits that do not start with zero. -/
def IsRun (cs : List Char) : Prop :=
  cs = ['0'] ∨ ∃ d ds, cs = d :: ds ∧ ('1' ≤ d ∧ d ≤ '9') ∧ ∀ c ∈ ds, isDecimal c = true

structure IsExponent (e : Json.Exponent) : Prop where
  mark : e.mark = 'e' ∨ e.mark = 'E'
  sign : e.sign = [] ∨ e.sign = ['+'] ∨ e.sign = ['-']
  some : e.digits ≠ []
  digits : ∀ c ∈ e.digits, isDecimal c = true

/-- The literal is one that a slot takes for a number. -/
structure IsNumber (l : Json.Literal) : Prop where
  whole : IsRun l.whole ∨ l.whole = [] ∧ l.fraction ≠ []
  fraction : ∀ c ∈ l.fraction, isDecimal c = true
  exponent : ∀ e ∈ l.exponent, IsExponent e

/-- Without a fraction and an exponent it writes an integer. -/
def IsWhole (l : Json.Literal) : Prop := l.fraction = [] ∧ l.exponent = none

variable {cs rest : List Char} {c : Char} {l : Json.Literal}

theorem isDecimal_of_isAsciiDigit (h : isAsciiDigit c = true) : isDecimal c = true := by
  rw [isDecimal, digit?_of_isAsciiDigit h]
  rfl

theorem isAsciiDigit_of_le (h : '1' ≤ c ∧ c ≤ '9') : isAsciiDigit c = true := by
  have hlow : '1'.toNat ≤ c.toNat := h.1
  have hhigh : c.toNat ≤ '9'.toNat := h.2
  exact isAsciiDigit_iff.2 ⟨Nat.le_trans (by decide) hlow, hhigh⟩

/-- Numbers of JSON are numbers here. -/
theorem isNumber_of_sound (h : l.Sound) : IsNumber l where
  whole := by
    rcases h.whole with hw | ⟨⟨d, ds, hw, hd⟩, hdigits⟩
    · exact .inl (.inl hw)
    · rw [hw] at hdigits
      have hrange := isAsciiDigit_iff.1 (hdigits d (.head ds))
      have hne : d.toNat ≠ '0'.toNat := fun heq => hd (Char.toNat_inj.1 heq)
      have hone : '1'.toNat ≤ d.toNat := by
        have h0 : '0'.toNat = 48 := rfl
        have h1 : '1'.toNat = 49 := rfl
        omega
      exact .inl (.inr ⟨d, ds, hw, ⟨hone, hrange.2⟩,
        fun c hc => isDecimal_of_isAsciiDigit (hdigits c (.tail d hc))⟩)
  fraction c hc := isDecimal_of_isAsciiDigit (h.fraction c hc)
  exponent e he :=
    have hsound := h.exponent e he
    ⟨hsound.mark, hsound.sign, hsound.digits.1,
      fun c hc => isDecimal_of_isAsciiDigit (hsound.digits.2 c hc)⟩

section Finding

theorem dropMinus_of_ne (h : cs.head? ≠ some '-') : dropMinus cs = cs := by
  unfold dropMinus
  split
  · exact absurd rfl h
  · rfl

theorem dropMinus_eq (cs : List Char) :
    cs = (if cs.head? = some '-' then ['-'] else []) ++ dropMinus cs := by
  by_cases h : cs.head? = some '-'
  · obtain ⟨rest, rfl⟩ := List.head?_eq_some_iff.1 h
    rfl
  · rw [if_neg h, dropMinus_of_ne h, List.nil_append]

theorem wholeRun_cases (cs : List Char) : IsRun (wholeRun cs) ∨ wholeRun cs = [] := by
  unfold wholeRun
  split
  · exact .inl (.inl rfl)
  · rename_i d ds _
    split
    · rename_i hd
      simp only [Bool.and_eq_true, decide_eq_true_eq] at hd
      exact .inl (.inr ⟨d, _, rfl, hd, fun c hc => List.all_eq_true.1 List.all_takeWhile c hc⟩)
    · exact .inr rfl
  · exact .inr rfl

theorem prefix_wholeRun (cs : List Char) : wholeRun cs <+: cs := by
  unfold wholeRun
  split
  · exact ⟨_, rfl⟩
  · split
    · exact List.cons_prefix_cons.2 ⟨rfl, List.takeWhile_prefix _⟩
    · exact List.nil_prefix
  · exact List.nil_prefix

theorem wholeRun_append (cs : List Char) :
    cs = wholeRun cs ++ cs.drop (wholeRun cs).length := by
  rw [List.prefix_iff_eq_append.1 (prefix_wholeRun cs)]

theorem exists_of_isInteger (h : isInteger cs = true) :
    ∃ l, IsNumber l ∧ IsWhole l ∧ cs = l.chars := by
  simp only [isInteger, Bool.and_eq_true, Bool.not_eq_true', List.isEmpty_eq_false_iff,
    List.isEmpty_iff] at h
  obtain ⟨hne, hrest⟩ := h
  have hbody := wholeRun_append (dropMinus cs)
  rw [hrest, List.append_nil] at hbody
  have hrun : IsRun (dropMinus cs) := by
    rw [hbody]
    exact (wholeRun_cases (dropMinus cs)).resolve_right hne
  refine ⟨⟨cs.head? = some '-', dropMinus cs, [], none⟩, ⟨.inl hrun, nofun, nofun⟩, ⟨rfl, rfl⟩, ?_⟩
  simpa [Json.Literal.chars, Json.Literal.fractionChars, Json.Literal.exponentChars]
    using dropMinus_eq cs

theorem exists_of_isExponent (h : isExponent cs = true) :
    ∃ e : Json.Exponent, IsExponent e ∧ cs = e.chars := by
  unfold isExponent at h
  split at h
  · rename_i mark rest
    simp only [Bool.and_eq_true, Bool.or_eq_true, decide_eq_true_eq, Bool.not_eq_true',
      List.isEmpty_eq_false_iff, List.all_eq_true] at h
    obtain ⟨⟨hmark, hne⟩, hdigits⟩ := h
    obtain ⟨sign, hsign, hrest⟩ : ∃ sign, (sign = [] ∨ sign = ['+'] ∨ sign = ['-']) ∧
        rest = sign ++ (Decimal.cutSign rest).2 := by
      unfold Decimal.cutSign
      split
      · exact ⟨['-'], .inr (.inr rfl), rfl⟩
      · exact ⟨['+'], .inr (.inl rfl), rfl⟩
      · exact ⟨[], .inl rfl, rfl⟩
    exact ⟨⟨mark, sign, _⟩, ⟨hmark, hsign, hne, hdigits⟩, congrArg (mark :: ·) hrest⟩
  · cases h

theorem exists_of_isFloat (h : isFloat cs = true) : ∃ l, IsNumber l ∧ ¬ IsWhole l ∧ cs = l.chars := by
  have hcs := dropMinus_eq cs
  have hbody := wholeRun_append (dropMinus cs)
  have hwhole := wholeRun_cases (dropMinus cs)
  unfold isFloat at h
  simp only at h
  generalize wholeRun (dropMinus cs) = whole at *
  split at h
  · rename_i rest hafter
    rw [hafter] at hbody
    simp only [Bool.and_eq_true, Bool.or_eq_true, Bool.not_eq_true', List.isEmpty_eq_false_iff,
      List.isEmpty_iff] at h
    obtain ⟨hne, hexponent⟩ := h
    have hdigits : ∀ c ∈ rest.takeWhile isDecimal, isDecimal c = true :=
      fun c hc => List.all_eq_true.1 List.all_takeWhile c hc
    have hrest := List.prefix_iff_eq_append.1 (List.takeWhile_prefix isDecimal (l := rest))
    generalize rest.takeWhile isDecimal = fraction at *
    obtain ⟨exponent, hexponent, hafter⟩ : ∃ exponent : Option Json.Exponent,
        (∀ e ∈ exponent, IsExponent e) ∧
          rest.drop fraction.length = exponent.elim [] Json.Exponent.chars := by
      rcases hexponent with hnil | hexponent
      · exact ⟨none, by rintro _ ⟨⟩, hnil⟩
      · obtain ⟨e, he, hchars⟩ := exists_of_isExponent hexponent
        exact ⟨some e, by rintro _ ⟨⟩; exact he, hchars⟩
    refine ⟨⟨cs.head? = some '-', whole, fraction, exponent⟩,
      ⟨hwhole.imp_right fun hw => ⟨hw, hne⟩, hdigits, hexponent⟩, fun hl => hne hl.1, ?_⟩
    nth_rewrite 1 [hcs]
    rw [hbody, ← hrest, hafter]
    simp [Json.Literal.chars, Json.Literal.fractionChars, Json.Literal.exponentChars, hne]
  · simp only [Bool.and_eq_true, Bool.not_eq_true', List.isEmpty_eq_false_iff] at h
    obtain ⟨e, he, hchars⟩ := exists_of_isExponent h.2
    refine ⟨⟨cs.head? = some '-', whole, [], some e⟩,
      ⟨.inl (hwhole.resolve_right h.1), List.forall_mem_nil _, by rintro _ ⟨⟩; exact he⟩, by rintro ⟨-, ⟨⟩⟩, ?_⟩
    nth_rewrite 1 [hcs]
    rw [hbody, hchars]
    simp [Json.Literal.chars, Json.Literal.fractionChars, Json.Literal.exponentChars]

end Finding

section Reading

theorem isDecimal_of_isRun (h : IsRun cs) : ∀ c ∈ cs, isDecimal c = true := by
  intro c hc
  rcases h with rfl | ⟨d, ds, rfl, hd, hds⟩
  · rw [List.mem_singleton.1 hc]
    rfl
  · rcases List.mem_cons.1 hc with rfl | hc
    · exact isDecimal_of_isAsciiDigit (isAsciiDigit_of_le hd)
    · exact hds c hc

theorem IsRun.ne_nil (h : IsRun cs) : cs ≠ [] := by
  rcases h with rfl | ⟨d, ds, rfl, -, -⟩ <;> nofun

theorem IsNumber.isDecimal_whole (h : IsNumber l) : ∀ c ∈ l.whole, isDecimal c = true := by
  rcases h.whole with hrun | ⟨hnil, -⟩
  · exact isDecimal_of_isRun hrun
  · rw [hnil]
    nofun

/-- What follows the whole part. -/
def after (l : Json.Literal) : List Char := l.fractionChars ++ l.exponentChars

theorem chars_eq (l : Json.Literal) :
    l.chars = (if l.negative then ['-'] else []) ++ (l.whole ++ after l) := rfl

theorem after_of_nil (h : l.fraction = []) : after l = l.exponentChars := by
  rw [after, Json.Literal.fractionChars, if_pos h, List.nil_append]

theorem after_of_ne (h : l.fraction ≠ []) : after l = '.' :: (l.fraction ++ l.exponentChars) := by
  rw [after, Json.Literal.fractionChars, if_neg h, List.cons_append]

theorem exponentChars_of_none (h : l.exponent = none) : l.exponentChars = [] := by
  rw [Json.Literal.exponentChars, h, Option.elim_none]

theorem exponentChars_of_some {e : Json.Exponent} (h : l.exponent = some e) :
    l.exponentChars = e.chars := by
  rw [Json.Literal.exponentChars, h, Option.elim_some]

theorem IsNumber.exponentChars_head (h : IsNumber l) (hc : c ∈ l.exponentChars.head?) :
    c = 'e' ∨ c = 'E' := by
  cases he : l.exponent with
  | none =>
      rw [exponentChars_of_none he] at hc
      cases hc
  | some e =>
      rw [exponentChars_of_some he] at hc
      cases hc
      exact (h.exponent e he).mark

theorem IsNumber.after_head (h : IsNumber l) (hc : c ∈ (after l).head?) :
    c = '.' ∨ c = 'e' ∨ c = 'E' := by
  by_cases hfraction : l.fraction = []
  · rw [after_of_nil hfraction] at hc
    exact .inr (h.exponentChars_head hc)
  · rw [after_of_ne hfraction] at hc
    cases hc
    exact .inl rfl

theorem IsNumber.not_isDecimal_after (h : IsNumber l) :
    ∀ c ∈ (after l).head?, isDecimal c = false := by
  intro c hc
  rcases h.after_head hc with rfl | rfl | rfl <;> decide

theorem IsNumber.not_isDecimal_exponentChars (h : IsNumber l) :
    ∀ c ∈ l.exponentChars.head?, isDecimal c = false := by
  intro c hc
  rcases h.exponentChars_head hc with rfl | rfl <;> decide

theorem after_eq_nil_iff : after l = [] ↔ IsWhole l := by
  unfold after Json.Literal.fractionChars Json.Literal.exponentChars IsWhole
  cases l.exponent <;> simp [Json.Exponent.chars]

/-- Without its sign a number begins with a digit or a point. -/
theorem IsNumber.head (h : IsNumber l) :
    ∃ c rest, l.whole ++ after l = c :: rest ∧ (isAsciiDigit c = true ∨ c = '.') := by
  rcases h.whole with (hw | ⟨d, ds, hw, hd, -⟩) | ⟨hw, hne⟩
  · exact ⟨_, _, by rw [hw]; rfl, .inl rfl⟩
  · exact ⟨d, _, by rw [hw]; rfl, .inl (isAsciiDigit_of_le hd)⟩
  · exact ⟨'.', l.fraction ++ l.exponentChars, by rw [hw, after_of_ne hne]; rfl, .inr rfl⟩

theorem IsNumber.head_ne (h : IsNumber l) :
    ∀ c ∈ (l.whole ++ after l).head?, c ≠ '-' ∧ c ≠ '+' := by
  obtain ⟨d, rest, heq, hd⟩ := h.head
  rw [heq]
  rintro c ⟨⟩
  rcases hd with hd | rfl
  · constructor <;> (rintro rfl; revert hd; decide)
  · decide

theorem IsNumber.dropMinus_chars (h : IsNumber l) : dropMinus l.chars = l.whole ++ after l := by
  rw [chars_eq]
  cases l.negative with
  | true => rfl
  | false => exact dropMinus_of_ne fun hhead => (h.head_ne '-' hhead).1 rfl

theorem IsNumber.wholeRun_eq (h : IsNumber l) : wholeRun (l.whole ++ after l) = l.whole := by
  rcases h.whole with (hw | ⟨d, ds, hw, hd, hds⟩) | ⟨hw, hne⟩
  · rw [hw]
    rfl
  · have htake := (Json.takeWhile_digits hds h.not_isDecimal_after).1
    have hzero : d ≠ '0' := by
      rintro rfl
      exact absurd hd.1 (by decide)
    rw [hw, List.cons_append]
    unfold wholeRun
    split
    · rename_i heq
      exact absurd (List.cons.inj heq).1 hzero
    · rename_i c more hcons
      obtain ⟨rfl, rfl⟩ := List.cons.inj hcons
      rw [if_pos (by simpa using hd), htake]
    · rename_i heq
      cases heq
  · rw [hw, after_of_ne hne]
    rfl

theorem IsNumber.isInteger_iff (h : IsNumber l) : isInteger l.chars = true ↔ IsWhole l := by
  simp only [isInteger, h.dropMinus_chars, h.wholeRun_eq, List.drop_left, Bool.and_eq_true,
    List.isEmpty_iff, after_eq_nil_iff, Bool.not_eq_true', List.isEmpty_eq_false_iff]
  refine ⟨And.right, fun hwhole => ⟨fun hnil => ?_, hwhole⟩⟩
  rcases h.whole with hrun | ⟨-, hne⟩
  · exact hrun.ne_nil hnil
  · exact hne hwhole.1

theorem IsExponent.isExponent_chars {e : Json.Exponent} (h : IsExponent e) :
    isExponent e.chars = true := by
  have hcut : Decimal.cutSign (e.sign ++ e.digits) = (decide (e.sign = ['-']), e.digits) := by
    have hsigns : isDecimal '-' = false ∧ isDecimal '+' = false := by decide
    refine Json.cutSign_append h.sign ?_
    simpa using Json.head_ne_sign hsigns h.some h.digits []
  simp only [Json.Exponent.chars, isExponent, hcut, Bool.and_eq_true, Bool.or_eq_true,
    decide_eq_true_eq, Bool.not_eq_true', List.isEmpty_eq_false_iff, List.all_eq_true]
  exact ⟨⟨h.mark, h.some⟩, h.digits⟩

theorem IsNumber.isFloat_chars (h : IsNumber l) (hnot : ¬ IsWhole l) : isFloat l.chars = true := by
  simp only [isFloat, h.dropMinus_chars, h.wholeRun_eq, List.drop_left]
  by_cases hfraction : l.fraction = []
  · have hrun : IsRun l.whole := h.whole.resolve_right fun hw => hw.2 hfraction
    obtain ⟨e, he⟩ := Option.ne_none_iff_exists'.1 fun hnone => hnot ⟨hfraction, hnone⟩
    have hafter : after l = e.chars := (after_of_nil hfraction).trans (exponentChars_of_some he)
    have hexponent := h.exponent e he
    have hmark : e.mark ≠ '.' := by
      rcases hexponent.mark with hm | hm <;> (rw [hm]; decide)
    rw [hafter]
    split
    · rename_i heq
      exact absurd (List.cons.inj heq).1 hmark
    · simpa [hexponent.isExponent_chars] using hrun.ne_nil
  · have htake := (Json.takeWhile_digits h.fraction h.not_isDecimal_exponentChars).1
    have hexponent : l.exponentChars = [] ∨ isExponent l.exponentChars = true := by
      cases he : l.exponent with
      | none => exact .inl (exponentChars_of_none he)
      | some e =>
          refine .inr ?_
          rw [exponentChars_of_some he]
          exact (h.exponent e he).isExponent_chars
    simp only [after_of_ne hfraction, htake, List.drop_left]
    simpa [hfraction] using hexponent

theorem IsNumber.mem_chars (h : IsNumber l) (hc : c ∈ l.chars) :
    isDecimal c = true ∨ c ∈ ['-', '+', '.', 'e', 'E'] := by
  have hexponent : c ∈ l.exponentChars → isDecimal c = true ∨ c ∈ ['-', '+', '.', 'e', 'E'] := by
    intro hc
    cases he : l.exponent with
    | none =>
        rw [exponentChars_of_none he] at hc
        cases hc
    | some e =>
        have hsound := h.exponent e he
        rw [exponentChars_of_some he] at hc
        simp only [Json.Exponent.chars, List.mem_cons, List.mem_append] at hc
        rcases hc with rfl | hc | hc
        · rcases hsound.mark with hm | hm <;> simp [hm]
        · rcases hsound.sign with hs | hs | hs <;> simp_all
        · exact .inl (hsound.digits c hc)
  rw [chars_eq, after, Json.Literal.fractionChars] at hc
  simp only [List.mem_append] at hc
  rcases hc with hc | hc | hc | hc
  · split at hc <;> simp_all
  · exact .inl (h.isDecimal_whole c hc)
  · split at hc
    · cases hc
    · rcases List.mem_cons.1 hc with rfl | hc
      · exact .inr (by decide)
      · exact .inl (h.fraction c hc)
  · exact hexponent hc

theorem IsNumber.trimmed_chars (h : IsNumber l) : Trimmed l.chars := by
  refine trimmed_of_not_blank fun c hc => ?_
  rcases h.mem_chars hc with hdecimal | hmark
  · exact isBlank_of_isDecimal hdecimal
  · have hmarks : (['-', '+', '.', 'e', 'E'].all fun c => !isBlank c) = true := by decide
    simpa using List.all_eq_true.1 hmarks c hmark

theorem IsNumber.not_lowLine (h : IsNumber l) : '_' ∉ l.chars := fun hc => by
  rcases h.mem_chars hc with hdecimal | hmark
  · exact absurd hdecimal (by decide)
  · exact absurd hmark (by decide)

theorem toNat_lt_of_head (hc : isAsciiDigit c = true ∨ c = '.') : c.toNat < 58 := by
  rcases hc with hc | rfl
  · exact Nat.lt_succ_of_le (isAsciiDigit_iff.1 hc).2
  · decide

/-- A number begins with a character before the letters and the brackets. -/
theorem IsNumber.chars_head (h : IsNumber l) :
    ∃ c rest, l.chars = c :: rest ∧ c.toNat < 58 := by
  rw [chars_eq]
  cases l.negative with
  | true => exact ⟨_, _, rfl, by decide⟩
  | false =>
      obtain ⟨c, rest, heq, hc⟩ := h.head
      exact ⟨c, rest, heq, toNat_lt_of_head hc⟩

theorem toLower_of_lt (hc : c.toNat < 58) : c.toLower = c :=
  of_toNat_lt (fun c => c.toLower = c) (by decide) hc

theorem lower_head (hc : c.toNat < 58) : (lower (c :: cs)).head? = some c := by
  have hsigma : c.toNat ≠ 0x3a3 := by omega
  have hdotted : c.toNat ≠ 0x130 := by omega
  have hascii : c.toNat < 0x80 := by omega
  rw [lower, lowerFrom]
  simp only [if_neg hsigma, if_neg hdotted, List.head?_cons, lowerChar, if_pos hascii,
    toLower_of_lt hc]

theorem IsNumber.cutSign_chars (h : IsNumber l) :
    Decimal.cutSign l.chars = (l.negative, l.whole ++ after l) := by
  rw [chars_eq, Json.cutSign_append ?_ h.head_ne]
  · cases l.negative <;> rfl
  · cases l.negative
    · exact .inl rfl
    · exact .inr (.inr rfl)

theorem IsNumber.joinDigits?_chars (h : IsNumber l) :
    Decimal.joinDigits? false (l.whole ++ after l) = some (l.whole ++ after l) :=
  joinDigits?_eq (fun hmem => h.not_lowLine (List.mem_append_right _ hmem)) false

/-- An integer is read, if it is not too long. -/
theorem IsNumber.parse_eq (h : IsNumber l) (hwhole : IsWhole l) :
    Numeral.parse l.chars = Numeral.ofSignedDigits l.negative l.whole := by
  have hrun : IsRun l.whole := h.whole.resolve_right fun hw => hw.2 hwhole.1
  have hall : l.whole.all isDecimal = true := List.all_eq_true.2 h.isDecimal_whole
  have hafter : after l = [] := after_eq_nil_iff.2 hwhole
  have hjoin := h.joinDigits?_chars
  rw [hafter, List.append_nil] at hjoin
  simp only [Numeral.parse, bareNumber_eq_self h.trimmed_chars, h.cutSign_chars, hafter,
    List.append_nil, hjoin, hall]
  simp [hrun.ne_nil]

theorem IsNumber.read?_eq (h : IsNumber l) :
    Decimal.read? (l.whole ++ after l) =
      some ⟨l.whole, l.fraction, l.exponent.elim 0 Json.Exponent.value, []⟩ := by
  obtain ⟨htake, hdrop⟩ := Json.takeWhile_digits h.isDecimal_whole h.not_isDecimal_after
  have hcut : Decimal.cutExponent isDecimal l.exponentChars =
      (l.exponent.elim 0 Json.Exponent.value, []) := by
    cases he : l.exponent with
    | none =>
        rw [exponentChars_of_none he]
        rfl
    | some e =>
        have hsound := h.exponent e he
        rw [exponentChars_of_some he, ← List.append_nil e.chars]
        exact Json.cutExponent_chars (by decide) hsound.mark hsound.sign hsound.some hsound.digits
          (by rintro _ ⟨⟩)
  simp only [Decimal.read?, htake, hdrop]
  by_cases hfraction : l.fraction = []
  · have hwhole : l.whole.isEmpty = false := by
      rcases h.whole with hrun | hw
      · simpa using hrun.ne_nil
      · exact absurd hfraction hw.2
    have hdot (more : List Char) : l.exponentChars ≠ '.' :: more := by
      intro heq
      rcases h.exponentChars_head (c := '.') (by rw [heq]; rfl) with hmark | hmark <;> cases hmark
    rw [after_of_nil hfraction, hfraction]
    split
    · rename_i heq
      exact absurd heq (hdot _)
    · simp [hwhole, hcut]
  · obtain ⟨htake', hdrop'⟩ :=
      Json.takeWhile_digits h.fraction h.not_isDecimal_exponentChars
    have hempty : l.fraction.isEmpty = false := by simpa using hfraction
    simp [after_of_ne hfraction, htake', hdrop', hempty, hcut]

/-- A number is read as the nearest float. -/
theorem IsNumber.parse?_eq (h : IsNumber l) :
    Decimal.parse? l.chars = some (Decimal.signed l.negative
      (Decimal.toFloat (decimalValue (l.whole ++ l.fraction)) l.power)) := by
  obtain ⟨c, rest, hbody, hc⟩ := h.head
  have hlow := toNat_lt_of_head hc
  have hword (word : String) (d : Char) (hd : word.toList.head? = some d) (hhigh : 58 ≤ d.toNat) :
      Decimal.lowAscii (l.whole ++ after l) ≠ word := by
    rintro rfl
    rw [hbody, Decimal.lowAscii, String.toList_ofList, List.map_cons, toLower_of_lt hlow] at hd
    cases hd
    omega
  have hinf := hword "inf" 'i' rfl (by decide)
  have hinfinity := hword "infinity" 'i' rfl (by decide)
  have hnan := hword "nan" 'n' rfl (by decide)
  have hread := h.read?_eq
  simp only [Decimal.parse?, bareNumber_eq_self h.trimmed_chars, h.cutSign_chars,
    h.joinDigits?_chars]
  simp [hinf, hinfinity, hnan, hread, Decimal.Reading.value, Json.Literal.power]

/-- Where conditions look for a number at the front of a text, they read the same. -/
theorem IsNumber.leadingNumber?_eq (h : IsNumber l) :
    Value.leadingNumber? l.chars = some (Decimal.signed l.negative
      (Decimal.toFloat (decimalValue (l.whole ++ l.fraction)) l.power)) := by
  have hstrip : stripLeft l.chars = l.chars := dropWhile_eq_self h.trimmed_chars.head
  have hread := h.read?_eq
  simp only [Value.leadingNumber?, hstrip, h.cutSign_chars]
  simp [hread, Decimal.Reading.value, Json.Literal.power]

theorem IsNumber.looksLikeJson_chars (h : IsNumber l) : looksLikeJson l.chars = false := by
  obtain ⟨c, rest, heq, hc⟩ := h.chars_head
  have hne {d : Char} (hd : 58 ≤ d.toNat) : some c ≠ some d := by
    rintro ⟨⟩
    omega
  have hopen : some c ≠ some '\x7b' := hne (by decide)
  have hbracket : some c ≠ some '[' := hne (by decide)
  simp [looksLikeJson, isEnclosed, heq, hopen, hbracket]

theorem IsNumber.isBooleanWord_chars (h : IsNumber l) :
    Condition.isBooleanWord (String.ofList l.chars) = false := by
  obtain ⟨c, rest, heq, hc⟩ := h.chars_head
  have hne (word : String) (hword : ∀ d ∈ word.toList.head?, 58 ≤ d.toNat) :
      Condition.lowerText (String.ofList l.chars) ≠ word := by
    rintro rfl
    have hhead := hword c (by
      rw [Condition.lowerText, String.toList_ofList, String.toList_ofList, heq, lower_head hc]
      rfl)
    omega
  have htrue := hne "true" (by rintro d ⟨⟩; decide)
  have hfalse := hne "false" (by rintro d ⟨⟩; decide)
  simp [Condition.isBooleanWord, htrue, hfalse]

end Reading

end Dialogue.Slot
