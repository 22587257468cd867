import Dialogue.Text.Basic
import Dialogue.Text.Digit
import Mathlib.Data.List.Induction
import Mathlib.Data.List.Infix
import Mathlib.Tactic.Ring
/-!
Texts that are put together and read back. First the numbers that decimal digits write: digits one
after the other, zeros in front and behind, and the digits in which a number is printed.
-/
namespace Dialogue.Text

theorem isAsciiDigit_iff {c : Char} : isAsciiDigit c = true ↔ 48 ≤ c.toNat ∧ c.toNat ≤ 57 := by
  simp [isAsciiDigit]

theorem digit?_of_isAsciiDigit {c : Char} (h : isAsciiDigit c = true) :
    digit? c = some (c.toNat - 48) := by
  obtain ⟨hlow, hhigh⟩ := isAsciiDigit_iff.1 h
  unfold digit?
  rw [if_pos (by omega), if_pos (by simp; omega)]

theorem decimalValue_append (a b : List Char) :
    decimalValue (a ++ b) = decimalValue a * 10 ^ b.length + decimalValue b := by
  induction b using List.reverseRecOn with
  | nil => simp [decimalValue]
  | append_singleton b c ih =>
      have hsnoc (cs : List Char) :
          decimalValue (cs ++ [c]) = 10 * decimalValue cs + (digit? c).getD 0 := by
        simp [decimalValue]
      rw [← List.append_assoc, hsnoc, hsnoc, ih, List.length_append, List.length_singleton, pow_succ]
      ring

theorem decimalValue_zeros (n : Nat) : decimalValue (List.replicate n '0') = 0 := by
  induction n with
  | zero => rfl
  | succ n ih =>
      rw [List.replicate_succ, ← List.singleton_append, decimalValue_append, ih]
      simp
      rfl

theorem decimalValue_zeros_append (n : Nat) (cs : List Char) :
    decimalValue (List.replicate n '0' ++ cs) = decimalValue cs := by
  rw [decimalValue_append, decimalValue_zeros, Nat.zero_mul, Nat.zero_add]

theorem decimalValue_append_zeros (cs : List Char) (n : Nat) :
    decimalValue (cs ++ List.replicate n '0') = decimalValue cs * 10 ^ n := by
  rw [decimalValue_append, decimalValue_zeros, List.length_replicate, Nat.add_zero]

theorem decimalValue_eq_ofDigitChars {cs : List Char} (h : ∀ c ∈ cs, isAsciiDigit c = true) :
    decimalValue cs = Nat.ofDigitChars 10 cs 0 := by
  induction cs using List.reverseRecOn with
  | nil => rfl
  | append_singleton cs c ih =>
      have hc := digit?_of_isAsciiDigit (h c (by simp))
      have hcs := ih fun d hd => h d (by simp [hd])
      rw [Nat.ofDigitChars_append, ← hcs]
      simp [decimalValue, hc, Nat.ofDigitChars_cons]

theorem isAsciiDigit_toDigits {n : Nat} {c : Char} (h : c ∈ Nat.toDigits 10 n) :
    isAsciiDigit c = true := by
  have hc := Nat.isDigit_of_mem_toDigits (by decide) (by decide) h
  simp only [Char.isDigit, Bool.and_eq_true, decide_eq_true_eq, UInt32.le_iff_toNat_le] at hc
  exact isAsciiDigit_iff.2 hc

theorem decimalValue_toDigits (n : Nat) : decimalValue (Nat.toDigits 10 n) = n := by
  rw [decimalValue_eq_ofDigitChars fun _ => isAsciiDigit_toDigits, Nat.ofDigitChars_ten_toDigits]

/-- A number other than zero is printed without a zero in front. -/
theorem head_toDigits {n : Nat} (h : 0 < n) :
    ∃ d ds, Nat.toDigits 10 n = d :: ds ∧ d ≠ '0' := by
  induction n using Nat.strongRecOn with
  | ind n ih =>
      by_cases hn : n < 10
      · exact ⟨_, _, Nat.toDigits_of_lt_base hn, by simp; omega⟩
      · obtain ⟨d, ds, hd, hne⟩ := ih (n / 10) (by omega) (by omega)
        rw [Nat.toDigits_of_base_le (by decide) (by omega), hd]
        exact ⟨d, _, rfl, hne⟩

/-!
Cutting texts that were put together: a separator that does not occur in the parts is found where
it was put, and what is replaced does not reach across a character that it lacks.
-/

variable {sep : Char} {a : List Char}

theorem cut?_append (h : sep ∉ a) (b : List Char) : cut? sep (a ++ sep :: b) = some (a, b) := by
  induction a with
  | nil => simp [cut?]
  | cons c a ih =>
      simp only [List.mem_cons, not_or] at h
      simp [cut?, Ne.symm h.1, ih h.2]

theorem splitAll_of_not_mem (h : sep ∉ a) : splitAll sep a = [a] := by
  induction a with
  | nil => rfl
  | cons c a ih =>
      simp only [List.mem_cons, not_or] at h
      simp [splitAll, Ne.symm h.1, ih h.2]

theorem splitAll_append (sep : Char) (a b : List Char) :
    splitAll sep (a ++ sep :: b) = splitAll sep a ++ splitAll sep b := by
  induction a with
  | nil => simp [splitAll]
  | cons c a ih =>
      by_cases hc : c = sep
      · simp [splitAll, hc, ih]
      · cases hs : splitAll sep a with
        | nil => exact absurd hs (splitAll_ne_nil sep a)
        | cons part parts => simp [splitAll, hc, ih, hs]

theorem occursIn_iff_infix {needle text : List Char} :
    occursIn needle text = true ↔ needle <:+: text := by
  induction text with
  | nil => rw [occursIn, List.isEmpty_iff, List.infix_nil]
  | cons c text ih =>
      rw [occursIn, Bool.or_eq_true, List.isPrefixOf_iff_prefix, ih, List.infix_cons_iff]

section Replacing

variable {old new : List Char} {c : Char}

theorem isPrefixOf_of_append (h : c ∉ old) {b : List Char}
    (hp : old.isPrefixOf (a ++ c :: b) = true) : old.isPrefixOf a = true := by
  rw [List.isPrefixOf_iff_prefix] at hp ⊢
  have hfront : a ++ [c] <+: a ++ c :: b := ⟨b, by simp⟩
  rcases List.prefix_or_prefix_of_prefix hp hfront with hshort | hlong
  · rcases List.prefix_concat_iff.1 hshort with rfl | hshort
    · exact absurd (by simp) h
    · exact hshort
  · exact absurd (hlong.subset (by simp)) h

theorem isPrefixOf_append (a b : List Char) (h : old.isPrefixOf a = true) :
    old.isPrefixOf (a ++ b) = true := by
  rw [List.isPrefixOf_iff_prefix] at h ⊢
  exact h.trans (List.prefix_append a b)

theorem replaceFrom_append (hold : old ≠ []) (h : c ∉ old) (b : List Char) {skip : Nat}
    (hskip : skip ≤ a.length) :
    replaceFrom old new skip (a ++ c :: b) =
      replaceFrom old new skip a ++ c :: replaceFrom old new 0 b := by
  induction a generalizing skip with
  | nil =>
      obtain rfl : skip = 0 := Nat.le_zero.1 hskip
      have hno : ¬ old.isPrefixOf (c :: b) = true := by
        intro hp
        have hnil : old.isPrefixOf [] = true := isPrefixOf_of_append (a := []) h hp
        exact hold (by simpa using hnil)
      simp [replaceFrom, hno]
  | cons d a ih =>
      cases skip with
      | succ skip => exact ih (by simpa using hskip)
      | zero =>
          simp only [List.cons_append, replaceFrom]
          by_cases hp : old.isPrefixOf (d :: a) = true
          · have hlen : old.length - 1 ≤ a.length := by
              have := (List.isPrefixOf_iff_prefix.1 hp).length_le
              simp only [List.length_cons] at this
              omega
            have hp' : old.isPrefixOf (d :: (a ++ c :: b)) = true := isPrefixOf_append (d :: a) _ hp
            simp only [if_pos hp, if_pos hp', ih hlen, List.append_assoc]
          · have hp' : ¬ old.isPrefixOf (d :: (a ++ c :: b)) = true := fun h' =>
              hp (isPrefixOf_of_append (a := d :: a) h h')
            simp only [if_neg hp, if_neg hp', ih (Nat.zero_le _), List.cons_append]

theorem replaceAll_append (hold : old ≠ []) (h : c ∉ old) (a b : List Char) :
    replaceAll old new (a ++ c :: b) = replaceAll old new a ++ c :: replaceAll old new b :=
  replaceFrom_append hold h b (Nat.zero_le _)

theorem replaceAll_cons (old new : List Char) (c : Char) (cs : List Char) :
    replaceAll old new (c :: cs) =
      if old.isPrefixOf (c :: cs) then new ++ replaceFrom old new (old.length - 1) cs
      else c :: replaceAll old new cs := rfl

theorem replaceAll_of_not_infix {cs : List Char} (h : ¬ old <:+: cs) :
    replaceAll old new cs = cs := by
  induction cs with
  | nil => rfl
  | cons c cs ih =>
      rw [List.infix_cons_iff, not_or] at h
      rw [replaceAll_cons, if_neg (mt List.isPrefixOf_iff_prefix.1 h.1), ih h.2]

theorem length_replaceFrom_le (hlength : new.length ≤ old.length) (skip : Nat) (cs : List Char) :
    (replaceFrom old new skip cs).length ≤ cs.length - skip := by
  induction cs generalizing skip with
  | nil => simp [replaceFrom]
  | cons c cs ih =>
      cases skip with
      | succ skip => simpa [replaceFrom] using ih skip
      | zero =>
          rw [replaceFrom]
          split
          · rename_i hfront
            have hfits := (List.isPrefixOf_iff_prefix.1 hfront).length_le
            have hrest := ih (old.length - 1)
            simp only [List.length_append, List.length_cons] at hfits ⊢
            omega
          · simpa using ih 0

theorem length_replaceAll_lt (hlength : new.length < old.length) {cs : List Char}
    (h : old <:+: cs) : (replaceAll old new cs).length < cs.length := by
  induction cs with
  | nil =>
      rw [List.infix_nil.1 h] at hlength
      exact absurd hlength (Nat.not_lt_zero _)
  | cons c cs ih =>
      rw [replaceAll_cons]
      split
      · rename_i hfront
        have hfits := (List.isPrefixOf_iff_prefix.1 hfront).length_le
        have hrest := length_replaceFrom_le hlength.le (old.length - 1) cs
        simp only [List.length_append, List.length_cons] at hfits ⊢
        omega
      · rename_i hfront
        rcases List.infix_cons_iff.1 h with h | h
        · exact absurd (List.isPrefixOf_iff_prefix.2 h) hfront
        · exact Nat.succ_lt_succ (ih h)

/-- Replacing by a shorter text leaves only those texts alone in which there is nothing to
replace. -/
theorem replaceAll_eq_self_iff (hlength : new.length < old.length) {cs : List Char} :
    replaceAll old new cs = cs ↔ ¬ old <:+: cs :=
  ⟨fun heq h => (length_replaceAll_lt hlength h).ne (congrArg List.length heq),
    replaceAll_of_not_infix⟩

end Replacing

end Dialogue.Text

/-!
Reading back the octets of characters. What follows a whole character is read on its own.
-/

namespace Dialogue.Text

variable {c : Char} {b : Nat}

theorem toNat_cases (c : Char) : c.toNat < 0xd800 ∨ 0xdfff < c.toNat ∧ c.toNat < 0x110000 := c.valid

theorem of_toNat_lt (P : Char → Prop) {b : Nat} (h : ∀ n < b, P (Char.ofNat n)) {c : Char}
    (hc : c.toNat < b) : P c := by
  have hchar := h c.toNat hc
  rwa [Char.ofNat_toNat] at hchar

theorem decodeFrom_open (b : Nat) (bs : List Nat) :
    decodeFrom none (b :: bs) = (openOctet b).1 ++ decodeFrom (openOctet b).2 bs := rfl

theorem decodeFrom_step (lead : Lead) (b : Nat) (bs : List Nat) :
    decodeFrom (some lead) (b :: bs) = (lead.step b).1 ++ decodeFrom (lead.step b).2 bs := rfl

theorem decodeFrom_last {value low high : Nat} (hb : low ≤ b ∧ b ≤ high) (bs : List Nat) :
    decodeFrom (some ⟨value, 1, low, high⟩) (b :: bs) =
      Char.ofNat (value * 0x40 + (b - 0x80)) :: decodeFrom none bs := by
  simp [decodeFrom_step, Lead.step, hb.1, hb.2]

theorem decodeFrom_more {value owed low high : Nat} (hb : low ≤ b ∧ b ≤ high) (bs : List Nat) :
    decodeFrom (some ⟨value, owed + 2, low, high⟩) (b :: bs) =
      decodeFrom (some ⟨value * 0x40 + (b - 0x80), owed + 1, 0x80, 0xbf⟩) bs := by
  simp [decodeFrom_step, Lead.step, hb.1, hb.2]

theorem openOctet_two (h : 0xc2 ≤ b) (h' : b < 0xe0) :
    openOctet b = ([], some ⟨b - 0xc0, 1, 0x80, 0xbf⟩) := by
  have h1 : ¬ b < 0x80 := by omega
  have h2 : ¬ b < 0xc2 := by omega
  simp only [openOctet, if_neg h1, if_neg h2, if_pos h']

theorem openOctet_three (h : 0xe0 ≤ b) (h' : b < 0xf0) :
    openOctet b = ([], some ⟨b - 0xe0, 2, if b = 0xe0 then 0xa0 else 0x80,
      if b = 0xed then 0x9f else 0xbf⟩) := by
  have h1 : ¬ b < 0x80 := by omega
  have h2 : ¬ b < 0xc2 := by omega
  have h3 : ¬ b < 0xe0 := by omega
  simp only [openOctet, if_neg h1, if_neg h2, if_neg h3]
  by_cases h4 : b = 0xe0
  · simp [h4]
  by_cases h5 : b = 0xed
  · simp [h5]
  · simp [h4, h5, h']

theorem openOctet_four (h : 0xf0 ≤ b) (h' : b ≤ 0xf4) :
    openOctet b = ([], some ⟨b - 0xf0, 3, if b = 0xf0 then 0x90 else 0x80,
      if b = 0xf4 then 0x8f else 0xbf⟩) := by
  obtain rfl | rfl | rfl | rfl | rfl : b = 0xf0 ∨ b = 0xf1 ∨ b = 0xf2 ∨ b = 0xf3 ∨ b = 0xf4 := by
    omega
  all_goals rfl

/-- The bounds of the second octet keep out surrogates, numbers beyond the last character, and
longer forms of characters that have a shorter one. -/
theorem decodeFrom_octets (c : Char) (bs : List Nat) :
    decodeFrom none (octets c ++ bs) = c :: decodeFrom none bs := by
  have hself : Char.ofNat c.toNat = c := Char.ofNat_toNat c
  have hvalid := toNat_cases c
  simp only [octets]
  generalize c.toNat = n at hself hvalid ⊢
  by_cases h1 : n < 0x80
  · simp [h1, decodeFrom_open, openOctet, hself]
  by_cases h2 : n < 0x800
  · have hn : (0xc0 + n / 0x40 - 0xc0) * 0x40 + (0x80 + n % 0x40 - 0x80) = n := by omega
    simp only [if_neg h1, if_pos h2, List.cons_append, List.nil_append]
    rw [decodeFrom_open, openOctet_two (by omega) (by omega), decodeFrom_last (by omega), hn, hself]
    rfl
  by_cases h3 : n < 0x10000
  · have hn : ((0xe0 + n / 0x1000 - 0xe0) * 0x40 + (0x80 + n / 0x40 % 0x40 - 0x80)) * 0x40 +
        (0x80 + n % 0x40 - 0x80) = n := by omega
    simp only [if_neg h1, if_neg h2, if_pos h3, List.cons_append, List.nil_append]
    rw [decodeFrom_open, openOctet_three (by omega) (by omega),
      decodeFrom_more (by split <;> split <;> omega),
      decodeFrom_last (by omega), hn, hself]
    rfl
  · have hn : (((0xf0 + n / 0x40000 - 0xf0) * 0x40 + (0x80 + n / 0x1000 % 0x40 - 0x80)) * 0x40 +
        (0x80 + n / 0x40 % 0x40 - 0x80)) * 0x40 + (0x80 + n % 0x40 - 0x80) = n := by omega
    simp only [if_neg h1, if_neg h2, if_neg h3, List.cons_append, List.nil_append]
    rw [decodeFrom_open, openOctet_four (by omega) (by omega),
      decodeFrom_more (by split <;> split <;> omega),
      decodeFrom_more (by omega), decodeFrom_last (by omega), hn, hself]
    rfl

theorem decodeOctets_append (cs : List Char) (bs : List Nat) :
    decodeOctets (cs.flatMap octets ++ bs) = cs ++ decodeOctets bs := by
  induction cs with
  | nil => rfl
  | cons c cs ih =>
      rw [List.flatMap_cons, List.append_assoc, decodeOctets, decodeFrom_octets]
      exact congrArg (c :: ·) ih

theorem decodeOctets_octets (cs : List Char) : decodeOctets (cs.flatMap octets) = cs := by
  have h := decodeOctets_append cs []
  rwa [List.append_nil, show decodeOctets [] = [] from rfl, List.append_nil] at h

theorem octets_ne_nil (c : Char) : octets c ≠ [] := by
  simp only [octets]
  split
  · simp
  · split
    · simp
    · split <;> simp

/-- An octet of ASCII is a character of its own. -/
theorem octets_cases (h : b ∈ octets c) : c.toNat = b ∧ b < 0x80 ∨ 0x80 ≤ b ∧ b < 0x100 := by
  have hvalid := toNat_cases c
  unfold octets at h
  simp only at h
  split at h
  · simp only [List.mem_singleton] at h
    omega
  · split at h
    · simp only [List.mem_cons, List.not_mem_nil, or_false] at h
      omega
    · split at h
      · simp only [List.mem_cons, List.not_mem_nil, or_false] at h
        omega
      · simp only [List.mem_cons, List.not_mem_nil, or_false] at h
        omega

end Dialogue.Text
