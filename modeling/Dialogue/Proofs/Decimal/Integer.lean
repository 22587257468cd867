import Dialogue.Decimal.Reader
import Dialogue.Proofs.Decimal.Float
/-!
Integers as floats. A float has 53 binary digits, so beyond `2 ^ 53` integers are rounded, and their
floats stand in the order of the rounded integers.
-/
namespace Dialogue.Decimal

section RoundEven

variable {n k d m : Nat}

theorem roundEven_mono (hd : 0 < d) (h : n ≤ k) : roundEven n d ≤ roundEven k d := by
  have hquotient : n / d ≤ k / d := Nat.div_le_div_right h
  have hn := Nat.div_add_mod n d
  have hk := Nat.div_add_mod k d
  have hrest := Nat.mod_lt k hd
  simp only [roundEven, Bool.or_eq_true, decide_eq_true_eq, Bool.and_eq_true]
  rcases hquotient.lt_or_eq with hlt | heq
  · split_ifs <;> omega
  · rw [heq] at hn ⊢
    split_ifs <;> omega

theorem roundEven_le (h : 2 * n < (2 * m + 1) * d) : roundEven n d ≤ m := by
  have hd : 0 < d := Nat.pos_of_mul_pos_left (Nat.zero_lt_of_lt h)
  have hn := Nat.div_add_mod n d
  have hquotient : n / d ≤ m := by
    rw [← Nat.lt_succ_iff, Nat.div_lt_iff_lt_mul hd]
    nlinarith
  simp only [roundEven, Bool.or_eq_true, decide_eq_true_eq, Bool.and_eq_true]
  rcases hquotient.lt_or_eq with hlt | heq
  · split_ifs <;> omega
  · have hrest : 2 * (n % d) < d := by
      rw [heq] at hn
      nlinarith
    rw [if_pos (.inl hrest), heq]

end RoundEven

/-- What the last of the 53 binary digits of a number stands for. -/
def lastPlace (n : Nat) : Nat := 2 ^ (n.log2 - 52)

/-- The number of 53 binary digits, with zeros behind them, that is nearest to a number; of two
equally near ones it is the one with the even last digit. -/
def roundNat (n : Nat) : Nat := roundEven n (lastPlace n) * lastPlace n

def roundInt (n : Int) : Int := Numeral.signed (n < 0) (roundNat n.natAbs)

/-- The 53 binary digits; those of smaller numbers are filled up with zeros. -/
def significand (n : Nat) : Nat := roundEven (n * 2 ^ (52 - n.log2)) (lastPlace n)

section Rounding

variable {n k : Nat}

theorem lastPlace_pos (n : Nat) : 0 < lastPlace n := Nat.two_pow_pos _

theorem log2_lt (h : n < 2 ^ 53) : n.log2 < 53 := by
  rcases Nat.eq_zero_or_pos n with rfl | hpos
  · decide
  · exact (Nat.log2_lt hpos.ne').2 h

theorem lastPlace_of_lt (h : n < 2 ^ 53) : lastPlace n = 1 := by
  have := log2_lt h
  rw [lastPlace, show n.log2 - 52 = 0 by omega, pow_zero]

theorem roundEven_one (n : Nat) : roundEven n 1 = n := by
  simpa using roundEven_mul_left Nat.one_pos n

theorem roundNat_of_lt (h : n < 2 ^ 53) : roundNat n = n := by
  rw [roundNat, lastPlace_of_lt h, roundEven_one, mul_one]

theorem two_pow_fill (k : Nat) : 2 ^ k * 2 ^ (52 - k) = 2 ^ (k - 52) * 2 ^ 52 := by
  rw [← Nat.pow_add, ← Nat.pow_add]
  congr 1
  omega

theorem significand_ge (h : 0 < n) : 2 ^ 52 ≤ significand n := by
  rw [significand, ← roundEven_mul_left (lastPlace_pos n) (2 ^ 52), lastPlace, ← two_pow_fill]
  exact roundEven_mono (lastPlace_pos n) (Nat.mul_le_mul_right _ (Nat.log2_self_le h.ne'))

theorem significand_le (n : Nat) : significand n ≤ 2 ^ 53 := by
  have htop : lastPlace n * 2 ^ 53 = 2 ^ (n.log2 + 1) * 2 ^ (52 - n.log2) := calc
    lastPlace n * 2 ^ 53 = 2 ^ (n.log2 - 52) * 2 ^ 52 * 2 := by
      rw [lastPlace, mul_assoc, ← pow_succ]
    _ = 2 ^ (n.log2 + 1) * 2 ^ (52 - n.log2) := by rw [← two_pow_fill, pow_succ, mul_right_comm]
  rw [significand, ← roundEven_mul_left (lastPlace_pos n) (2 ^ 53), htop]
  exact roundEven_mono (lastPlace_pos n) (Nat.mul_le_mul_right _ Nat.lt_log2_self.le)

theorem roundNat_mul (n : Nat) : roundNat n * 2 ^ 52 = significand n * 2 ^ n.log2 := by
  rcases Nat.le_or_ge 52 n.log2 with hle | hge
  · have hplace : 2 ^ n.log2 = lastPlace n * 2 ^ 52 := by
      rw [lastPlace, ← two_pow_fill, Nat.sub_eq_zero_of_le hle, pow_zero, mul_one]
    rw [significand, Nat.sub_eq_zero_of_le hle, pow_zero, mul_one, roundNat, hplace, mul_assoc]
  · have hplace : lastPlace n = 1 := by rw [lastPlace, Nat.sub_eq_zero_of_le hge, pow_zero]
    rw [significand, roundNat, hplace, roundEven_one, roundEven_one, mul_one, mul_assoc,
      Nat.mul_comm (2 ^ _), two_pow_fill, Nat.sub_eq_zero_of_le hge, pow_zero, one_mul]

theorem roundNat_mono (h : n ≤ k) : roundNat n ≤ roundNat k := by
  rcases Nat.eq_zero_or_pos n with rfl | hpos
  · exact Nat.zero_le _
  · have hlog : n.log2 ≤ k.log2 :=
      (Nat.le_log2 (by omega)).2 ((Nat.log2_self_le hpos.ne').trans h)
    rcases hlog.eq_or_lt with heq | hlt
    · have hplace : lastPlace n = lastPlace k := by rw [lastPlace, heq, lastPlace]
      rw [roundNat, roundNat, hplace]
      exact Nat.mul_le_mul_right _ (roundEven_mono (lastPlace_pos k) h)
    · -- the power of two between the two numbers is between the rounded ones too
      apply Nat.le_of_mul_le_mul_right _ (Nat.two_pow_pos 52)
      calc roundNat n * 2 ^ 52 = significand n * 2 ^ n.log2 := roundNat_mul n
        _ ≤ 2 ^ 53 * 2 ^ n.log2 := Nat.mul_le_mul_right _ (significand_le n)
        _ = 2 ^ 52 * 2 ^ (n.log2 + 1) := by rw [pow_succ 2 n.log2, pow_succ 2 52]; ring
        _ ≤ significand k * 2 ^ k.log2 :=
            Nat.mul_le_mul (significand_ge (by omega)) (Nat.pow_le_pow_right Nat.two_pos hlt)
        _ = roundNat k * 2 ^ 52 := (roundNat_mul k).symm

end Rounding

section Bits

variable {n k m m' : Nat}

/-- With the leading digit at its place the exponent counts first and then the mantissa. A mantissa
that is rounded up to the next power of two belongs to the next exponent. -/
theorem shifted_lt_iff {j j' : Nat} (hm : 2 ^ 52 ≤ m) (hm' : 2 ^ 52 ≤ m') (htop : m ≤ 2 ^ 53)
    (htop' : m' ≤ 2 ^ 53) :
    j * 2 ^ 52 + m < j' * 2 ^ 52 + m' ↔ m * 2 ^ j < m' * 2 ^ j' := by
  have hgrow (m i : Nat) : m ≤ m * 2 ^ i := Nat.le_mul_of_pos_right m (Nat.two_pow_pos i)
  rcases lt_trichotomy j j' with hlt | rfl | hgt
  · obtain ⟨i, rfl⟩ := Nat.exists_eq_add_of_lt hlt
    rw [show m' * 2 ^ (j + i + 1) = 2 * (m' * 2 ^ i) * 2 ^ j by ring,
      Nat.mul_lt_mul_right (Nat.two_pow_pos j)]
    cases i with
    | zero => omega
    | succ i =>
        have hdouble : m' * 2 ^ (i + 1) = 2 * (m' * 2 ^ i) := by ring
        have := hgrow m' i
        omega
  · rw [Nat.mul_lt_mul_right (Nat.two_pow_pos j)]
    omega
  · obtain ⟨i, rfl⟩ := Nat.exists_eq_add_of_lt hgt
    have := hgrow m i
    rw [show m * 2 ^ (j' + i + 1) = 2 * (m * 2 ^ i) * 2 ^ j' by ring,
      Nat.mul_lt_mul_right (Nat.two_pow_pos j')]
    omega

/-- The bits of the float of an integer, as if there were no largest float. -/
def integerBits (n : Nat) : Nat := if n = 0 then 0 else (n.log2 + 1022) * 2 ^ 52 + significand n

theorem integerBits_of_pos (h : 0 < n) :
    integerBits n = (n.log2 + 1022) * 2 ^ 52 + significand n := if_neg h.ne'

theorem leadingBit_one (h : 0 < n) : leadingBit n 1 = n.log2 := by
  have hself := Nat.log2_self_le h.ne'
  have hone : Nat.log2 1 = 0 := rfl
  rw [leadingBit, hone]
  simp only [power, Nat.pow_eq]
  rw [if_neg, Int.natCast_zero, Int.sub_zero]
  simpa using hself

theorem nearestBits_one (h : 0 < n) : nearestBits n 1 = min infiniteBits (integerBits n) := by
  have hpower : power 2 ((n.log2 : Int) - 52) = (2 ^ (n.log2 - 52), 2 ^ (52 - n.log2)) := by
    unfold power
    split
    · rw [show ((n.log2 : Int) - 52).toNat = n.log2 - 52 by omega,
        show 52 - n.log2 = 0 by omega]
      rfl
    · rw [show (-((n.log2 : Int) - 52)).toNat = 52 - n.log2 by omega,
        show n.log2 - 52 = 0 by omega]
      rfl
  have hexponent : max ((n.log2 : Int) - 52) (-1074) = (n.log2 : Int) - 52 := by omega
  have hbiased : ((n.log2 : Int) - 52 + 1074).toNat = n.log2 + 1022 := by omega
  rw [nearestBits, leadingBit_one h, hexponent, hpower, hbiased, integerBits_of_pos h]
  simp only [one_mul]
  rfl

theorem toFloat_integer (n : Nat) : toFloat n 0 = ofNatBits (min infiniteBits (integerBits n)) := by
  rcases Nat.eq_zero_or_pos n with rfl | hpos
  · rfl
  · rw [← nearestBits_one hpos, toFloat, if_neg hpos.ne', if_neg (by omega), if_neg (by omega)]
    simp [power]

theorem roundNat_pos (h : 0 < n) : 0 < roundNat n := by
  have := roundNat_mono (show 1 ≤ n from h)
  rwa [roundNat_of_lt (by decide)] at this

theorem integerBits_lt_iff : integerBits n < integerBits k ↔ roundNat n < roundNat k := by
  rcases Nat.eq_zero_or_pos k with rfl | hk
  · exact iff_of_false (Nat.not_lt_zero _) (Nat.not_lt_zero _)
  · rw [integerBits_of_pos hk]
    rcases Nat.eq_zero_or_pos n with rfl | hn
    · exact iff_of_true (by simp [integerBits]) (roundNat_pos hk)
    · rw [integerBits_of_pos hn, ← Nat.mul_lt_mul_right (b := roundNat n) (Nat.two_pow_pos 52),
        roundNat_mul, roundNat_mul, ← shifted_lt_iff (significand_ge hn) (significand_ge hk)
        (significand_le n) (significand_le k)]
      omega

/-- What is below the point half way between the last number of 53 digits and the next power of two
is not rounded up to that. -/
theorem integerBits_lt {j : Nat} (h : n < (2 ^ 54 - 1) * 2 ^ j) :
    integerBits n < (j + 1077) * 2 ^ 52 := by
  rcases Nat.eq_zero_or_pos n with rfl | hpos
  · exact Nat.mul_pos (Nat.succ_pos _) (Nat.two_pow_pos 52)
  · have htop : n < 2 ^ (54 + j) := by
      rw [pow_add]
      exact h.trans_le (Nat.mul_le_mul_right _ (Nat.sub_le _ _))
    have hlog : n.log2 < 54 + j := (Nat.log2_lt hpos.ne').2 htop
    rw [integerBits_of_pos hpos]
    rcases (Nat.le_sub_one_of_lt hlog).lt_or_eq with hlt | heq
    · have := significand_le n
      omega
    · have hmantissa : significand n ≤ 2 ^ 53 - 1 := by
        apply roundEven_le
        rw [lastPlace, show 52 - n.log2 = 0 by omega, show n.log2 - 52 = j + 1 by omega, pow_succ]
        omega
      omega

end Bits

/-- The point half way between the largest float and the next power of two: integers from there on
have no float. -/
def floatLimit : Nat := 2 ^ 1024 - 2 ^ 970

theorem floatLimit_eq : floatLimit = (2 ^ 54 - 1) * 2 ^ 970 := by decide +kernel

theorem integerBits_lt_infiniteBits {n : Nat} (h : n < floatLimit) : integerBits n < infiniteBits := by
  rw [floatLimit_eq] at h
  exact integerBits_lt h

def floatInt (n : Int) : Float := signed (n < 0) (toFloat n.natAbs 0)

section Signed

variable {a b : Int}

theorem ofInt?_eq (h : a.natAbs < floatLimit) : ofInt? a = some (floatInt a) := by
  have hlimit : floatLimit = Nat.pow 2 1024 - Nat.pow 2 970 := by decide +kernel
  rw [ofInt?, ← hlimit, if_pos h]
  rfl

theorem roundInt_of_lt (h : a.natAbs < 2 ^ 53) : roundInt a = a := by
  rw [roundInt, roundNat_of_lt h]
  rcases lt_or_ge a 0 with hneg | hpos
  · rw [decide_eq_true hneg, Numeral.signed_true]
    omega
  · rw [decide_eq_false hpos.not_gt, Numeral.signed_false]
    omega

theorem roundNat_lt_iff {n : Nat} : roundNat n < 2 ^ 53 ↔ n < 2 ^ 53 := by
  constructor
  · contrapose!
    exact fun h => roundNat_mono h
  · intro h
    rwa [roundNat_of_lt h]

/-- Only integers of more than 53 binary digits are rounded to the same. -/
theorem eq_of_roundInt_eq (h : a.natAbs < 2 ^ 53 ∨ b.natAbs < 2 ^ 53) (heq : roundInt a = roundInt b) :
    a = b := by
  have habs := congrArg Int.natAbs heq
  simp only [roundInt, Numeral.natAbs_signed] at habs
  have hsame : a.natAbs < 2 ^ 53 ↔ b.natAbs < 2 ^ 53 := by
    rw [← roundNat_lt_iff, habs, roundNat_lt_iff]
  rwa [roundInt_of_lt (by tauto), roundInt_of_lt (by tauto)] at heq

theorem roundInt_mono (h : a ≤ b) : roundInt a ≤ roundInt b := by
  have hup : a.natAbs ≤ b.natAbs → roundNat a.natAbs ≤ roundNat b.natAbs := roundNat_mono
  have hdown : b.natAbs ≤ a.natAbs → roundNat b.natAbs ≤ roundNat a.natAbs := roundNat_mono
  simp only [roundInt, Numeral.signed, decide_eq_true_eq]
  split_ifs <;> omega

/-- Numbers that are zero and in order together are so with signs in front. -/
theorem signed_lt_signed_iff {x y x' y' : Nat} (negative negative' : Bool)
    (hy : y = 0 ↔ y' = 0) (hlt : x < y ↔ x' < y') (hgt : y < x ↔ y' < x') :
    Numeral.signed negative x < Numeral.signed negative' y ↔
      Numeral.signed negative x' < Numeral.signed negative' y' := by
  cases negative <;> cases negative' <;>
    simp only [Numeral.signed_false, Numeral.signed_true] <;> omega

theorem min_integerBits_eq_zero_iff {n : Nat} :
    min infiniteBits (integerBits n) = 0 ↔ roundNat n = 0 := by
  have hinfinite : 0 < infiniteBits := by decide
  rcases Nat.eq_zero_or_pos n with rfl | hpos
  · exact iff_of_true rfl rfl
  · have := roundNat_pos hpos
    rw [integerBits_of_pos hpos]
    omega

theorem min_integerBits_lt_iff {n k : Nat} (h : n < floatLimit ∨ k < floatLimit) :
    min infiniteBits (integerBits n) < min infiniteBits (integerBits k) ↔ roundNat n < roundNat k := by
  rw [← integerBits_lt_iff]
  rcases h with h | h
  · have := integerBits_lt_infiniteBits h
    omega
  · have := integerBits_lt_infiniteBits h
    omega

/-- The floats of integers stand in the order of the rounded integers, also if one is infinite. -/
theorem floatInt_lt_iff (h : a.natAbs < floatLimit ∨ b.natAbs < floatLimit) :
    floatInt a < floatInt b ↔ roundInt a < roundInt b := by
  rw [floatInt, floatInt, toFloat_integer, toFloat_integer,
    signed_lt_iff _ _ (min_le_left _ _) (min_le_left _ _)]
  exact signed_lt_signed_iff _ _ min_integerBits_eq_zero_iff (min_integerBits_lt_iff h)
    (min_integerBits_lt_iff h.symm)

theorem floatInt_le_iff (h : a.natAbs < floatLimit ∨ b.natAbs < floatLimit) :
    floatInt a ≤ floatInt b ↔ roundInt a ≤ roundInt b := by
  have hlt := floatInt_lt_iff h.symm
  rw [floatInt, floatInt, toFloat_integer, toFloat_integer] at hlt ⊢
  rw [signed_lt_iff _ _ (min_le_left _ _) (min_le_left _ _)] at hlt
  rw [signed_le_iff _ _ (min_le_left _ _) (min_le_left _ _), ← not_lt, hlt, not_lt]

end Signed

end Dialogue.Decimal
