import Dialogue.Decimal.Layout
import Mathlib.Algebra.Order.Field.Power
import Mathlib.Tactic.FieldSimp
import Mathlib.Tactic.Linarith
import Mathlib.Tactic.Positivity
import Mathlib.Tactic.Ring
/-!
Which fractions are rounded to a float: those between the points half way to its neighbours. The
points themselves go to the float with the even mantissa.
-/
namespace Dialogue.Decimal

theorem power_pos {b : Nat} (h : 0 < b) (e : Int) : 0 < (power b e).1 ∧ 0 < (power b e).2 := by
  unfold power
  split
  · exact ⟨Nat.pow_pos h, Nat.one_pos⟩
  · exact ⟨Nat.one_pos, Nat.pow_pos h⟩

theorem power_eq (b : Nat) (e : Int) :
    ((power b e).1 : ℚ) / ((power b e).2 : ℚ) = (b : ℚ) ^ e := by
  unfold power
  split
  · rename_i h
    obtain ⟨n, rfl⟩ := Int.eq_ofNat_of_zero_le h
    simp
  · rename_i h
    obtain ⟨n, hn⟩ := Int.eq_ofNat_of_zero_le (show 0 ≤ -e by omega)
    obtain rfl : e = -n := by omega
    simp

theorem mul_power_lt_iff {b : Nat} (hb : 0 < b) (n : Nat) {d : Nat} (hd : 0 < d) (e : Int) :
    n * (power b e).2 < d * (power b e).1 ↔ (n / d : ℚ) < (b : ℚ) ^ e := by
  have hdq : (0 : ℚ) < d := by exact_mod_cast hd
  have hbd : (0 : ℚ) < (power b e).2 := by exact_mod_cast (power_pos hb e).2
  rw [← power_eq, div_lt_div_iff₀ hdq hbd, mul_comm ((power b e).1 : ℚ)]
  exact_mod_cast Iff.rfl

theorem roundEven_eq {n d m : Nat} (hlow : 2 * m * d ≤ 2 * n + d) (hhigh : 2 * n ≤ (2 * m + 1) * d)
    (heven : 2 * m * d = 2 * n + d ∨ 2 * n = (2 * m + 1) * d → m % 2 = 0) (hd : 0 < d) :
    roundEven n d = m := by
  have hn := Nat.div_add_mod n d
  have hr := Nat.mod_lt n hd
  unfold roundEven
  generalize n / d = q at *
  generalize n % d = r at *
  subst hn
  have hle : q ≤ m := by
    by_contra hlt
    have : (m + 1) * d ≤ q * d := Nat.mul_le_mul_right d (by omega)
    nlinarith
  have hge : m ≤ q + 1 := by
    by_contra hlt
    have : (q + 2) * d ≤ m * d := Nat.mul_le_mul_right d (by omega)
    nlinarith
  obtain rfl | rfl : m = q ∨ m = q + 1 := by omega
  · have hrest : 2 * r ≤ d := by nlinarith
    have htie : 2 * r = d → m % 2 = 0 := fun h => heven (.inr (by rw [← h]; ring))
    rcases Nat.lt_or_eq_of_le hrest with hlt | heq
    · simp [hlt]
    · simp [heq, htie heq]
  · have hrest : d ≤ 2 * r := by nlinarith
    have htie : 2 * r = d → (q + 1) % 2 = 0 := fun h => heven (.inl (by rw [← h]; ring))
    rw [if_neg]
    simp only [Bool.or_eq_true, decide_eq_true_eq, Bool.and_eq_true, not_or]
    exact ⟨by omega, fun h => by have := htie h.1; omega⟩

theorem leadingBit_spec {n d : Nat} (hn : 0 < n) (hd : 0 < d) :
    (2 : ℚ) ^ leadingBit n d ≤ n / d ∧ (n / d : ℚ) < 2 ^ (leadingBit n d + 1) := by
  have hn1 : (2 : ℚ) ^ n.log2 ≤ n := by exact_mod_cast Nat.log2_self_le hn.ne'
  have hn2 : (n : ℚ) < 2 ^ (n.log2 + 1) := by exact_mod_cast Nat.lt_log2_self
  have hd1 : (2 : ℚ) ^ d.log2 ≤ d := by exact_mod_cast Nat.log2_self_le hd.ne'
  have hd2 : (d : ℚ) < 2 ^ (d.log2 + 1) := by exact_mod_cast Nat.lt_log2_self
  have hdpos : (0 : ℚ) < d := by exact_mod_cast hd
  have hcompare := mul_power_lt_iff Nat.two_pos n hd ((n.log2 : Int) - d.log2)
  simp only [Nat.cast_ofNat] at hcompare
  have hlow : (2 : ℚ) ^ ((n.log2 : Int) - d.log2 - 1) ≤ n / d := by
    rw [le_div_iff₀ hdpos]
    calc (2 : ℚ) ^ ((n.log2 : Int) - d.log2 - 1) * d
        ≤ 2 ^ ((n.log2 : Int) - d.log2 - 1) * 2 ^ (d.log2 + 1) := by gcongr
      _ = 2 ^ n.log2 := by
          rw [← zpow_natCast 2 (d.log2 + 1), ← zpow_add₀ (by norm_num), ← zpow_natCast]
          congr 1
          push_cast
          ring
      _ ≤ n := hn1
  have hhigh : (n / d : ℚ) < 2 ^ ((n.log2 : Int) - d.log2 + 1) := by
    rw [div_lt_iff₀ hdpos]
    calc (n : ℚ) < 2 ^ (n.log2 + 1) := hn2
      _ = 2 ^ ((n.log2 : Int) - d.log2 + 1) * 2 ^ d.log2 := by
          rw [← zpow_natCast 2 d.log2, ← zpow_add₀ (by norm_num), ← zpow_natCast]
          congr 1
          push_cast
          ring
      _ ≤ 2 ^ ((n.log2 : Int) - d.log2 + 1) * d := by gcongr
  simp only [leadingBit, hcompare]
  split
  · rename_i h
    exact ⟨hlow, by simpa using h⟩
  · rename_i h
    exact ⟨not_lt.1 h, hhigh⟩

/-- The place of the leading digit is given by any powers of two around the fraction. -/
theorem lt_of_zpow_lt {j k : Int} {x : ℚ} (h : (2 : ℚ) ^ j ≤ x) (h' : x < 2 ^ k) : j < k :=
  (zpow_lt_zpow_iff_right₀ (by norm_num : (1 : ℚ) < 2)).1 (lt_of_le_of_lt h h')

namespace Binary

/-- The magnitude of a float in normal form. -/
structure Sound (x : Binary) : Prop where
  mantissa_lt : x.mantissa < 2 ^ 53
  normal : -1074 < x.exponent → 2 ^ 52 ≤ x.mantissa
  tight : x.tight = true ↔ x.mantissa = 2 ^ 52 ∧ -1074 < x.exponent
  exponent_ge : -1074 ≤ x.exponent
  exponent_le : x.exponent ≤ 971

def low (x : Binary) : ℚ := (x.mantissa - if x.tight then 1 / 4 else 1 / 2) * 2 ^ x.exponent

def high (x : Binary) : ℚ := (x.mantissa + 1 / 2) * 2 ^ x.exponent

/-- The number is rounded to the float. -/
def Rounds (x : Binary) (v : ℚ) : Prop :=
  x.low ≤ v ∧ v ≤ x.high ∧ (v = x.low ∨ v = x.high → x.mantissa % 2 = 0)

def bits (x : Binary) : Nat := (x.exponent + 1074).toNat * 2 ^ 52 + x.mantissa

variable {x : Binary}

theorem Sound.bits_lt (h : x.Sound) : x.bits < 2047 * 2 ^ 52 := by
  have := h.mantissa_lt
  have := h.exponent_le
  have := h.exponent_ge
  unfold bits
  omega

/-- Fractions are rounded to a float in units of its last place. -/
theorem roundEven_scaled {n d m : Nat} (hd : 0 < d) (e : Int)
    (hlow : (m - 1 / 2 : ℚ) * 2 ^ e ≤ n / d) (hhigh : (n / d : ℚ) ≤ (m + 1 / 2) * 2 ^ e)
    (heven : (n / d : ℚ) = (m - 1 / 2) * 2 ^ e ∨ (n / d : ℚ) = (m + 1 / 2) * 2 ^ e → m % 2 = 0) :
    roundEven (n * (power 2 e).2) (d * (power 2 e).1) = m := by
  obtain ⟨hp, hq⟩ := power_pos Nat.two_pos e
  have hpower := power_eq 2 e
  generalize power 2 e = p at *
  obtain ⟨bn, bd⟩ := p
  have hdq : (0 : ℚ) < d := by exact_mod_cast hd
  have hbd : (0 : ℚ) < bd := by exact_mod_cast hq
  push_cast at hpower
  have hn : (n / d : ℚ) = ((2 * (n * bd) : Nat) : ℚ) / (2 * d * bd) := by
    push_cast
    field_simp
  have hl : (m - 1 / 2 : ℚ) * 2 ^ e = (((2 * m * (d * bn) : Nat) : ℚ) - (d * bn : Nat)) / (2 * d * bd) := by
    rw [← hpower]
    push_cast
    field_simp
  have hh : (m + 1 / 2 : ℚ) * 2 ^ e = (((2 * m + 1) * (d * bn) : Nat) : ℚ) / (2 * d * bd) := by
    rw [← hpower]
    push_cast
    field_simp
  have hpos : (0 : ℚ) < 2 * d * bd := by positivity
  rw [hn, hl, div_le_div_iff_of_pos_right hpos, sub_le_iff_le_add] at hlow
  rw [hn, hh, div_le_div_iff_of_pos_right hpos] at hhigh
  rw [hn, hl, hh, div_left_inj' hpos.ne', div_left_inj' hpos.ne', eq_sub_iff_add_eq] at heven
  refine roundEven_eq (by exact_mod_cast hlow) (by exact_mod_cast hhigh) (fun h => heven ?_)
    (Nat.mul_pos hd hp)
  exact h.imp (fun h => by exact_mod_cast h.symm) (fun h => by exact_mod_cast h)

theorem low_ge (x : Binary) : (x.mantissa - 1 / 2 : ℚ) * 2 ^ x.exponent ≤ x.low := by
  unfold low
  gcongr
  split <;> norm_num

theorem Sound.high_lt (h : x.Sound) : x.high < 2 ^ (x.exponent + 53) := by
  have hm : (x.mantissa : ℚ) + 1 ≤ 2 ^ (53 : Int) := by exact_mod_cast h.mantissa_lt
  rw [zpow_add₀ (by norm_num), mul_comm]
  unfold high
  gcongr
  linarith

/-- The place of the leading digit settles the place of the last one, but for the fractions below a
power of two that are rounded up to it. -/
theorem Sound.leadingBit_cases (h : x.Sound) {n d : Nat} (hn : 0 < n) (hd : 0 < d)
    (hv : x.Rounds (n / d)) :
    max (leadingBit n d - 52) (-1074) = x.exponent ∨
      max (leadingBit n d - 52) (-1074) = x.exponent - 1 ∧ x.tight = true ∧
        (n / d : ℚ) < 2 ^ (x.exponent + 52) := by
  obtain ⟨hlead, hlead'⟩ := leadingBit_spec hn hd
  have hge := h.exponent_ge
  have htop : leadingBit n d < x.exponent + 53 :=
    lt_of_zpow_lt hlead (lt_of_le_of_lt hv.2.1 h.high_lt)
  rcases Int.lt_or_eq_of_le hge with hnormal | hbottom
  · by_cases htight : x.tight = true
    · have hlow : (2 : ℚ) ^ (x.exponent + 51) ≤ x.low := by
        rw [zpow_add₀ (by norm_num), mul_comm]
        unfold low
        rw [if_pos htight]
        have hmant : (4503599627370496 : ℚ) ≤ x.mantissa := by exact_mod_cast h.normal hnormal
        gcongr
        norm_num
        linarith
      have hbottom : x.exponent + 51 < leadingBit n d + 1 :=
        lt_of_zpow_lt (hlow.trans hv.1) hlead'
      by_cases heq : leadingBit n d = x.exponent + 51
      · exact .inr ⟨by omega, htight, by rw [heq] at hlead'; convert hlead' using 2; ring⟩
      · exact .inl (by omega)
    · have hmore : 2 ^ 52 < x.mantissa := lt_of_le_of_ne (h.normal hnormal) fun heq =>
        htight (h.tight.2 ⟨heq.symm, hnormal⟩)
      have hmore : (2 : ℚ) ^ (52 : Int) + 1 ≤ x.mantissa := by exact_mod_cast hmore
      have hlow : (2 : ℚ) ^ (x.exponent + 52) ≤ x.low := by
        rw [zpow_add₀ (by norm_num), mul_comm]
        refine le_trans ?_ x.low_ge
        gcongr
        linarith
      have hbottom : x.exponent + 52 < leadingBit n d + 1 :=
        lt_of_zpow_lt (hlow.trans hv.1) hlead'
      exact .inl (by omega)
  · exact .inl (by omega)

theorem Sound.nearestBits_eq (h : x.Sound) {n d : Nat} (hn : 0 < n) (hd : 0 < d)
    (hv : x.Rounds (n / d)) : nearestBits n d = x.bits := by
  obtain ⟨hlow, hhigh, heven⟩ := id hv
  have hlt := h.bits_lt
  have hge := h.exponent_ge
  have hbits : (max (leadingBit n d - 52) (-1074) + 1074).toNat * 2 ^ 52 +
      roundEven (n * (power 2 (max (leadingBit n d - 52) (-1074))).2)
        (d * (power 2 (max (leadingBit n d - 52) (-1074))).1) = x.bits := by
    rcases h.leadingBit_cases hn hd hv with heq | ⟨heq, htight, hbelow⟩
    · rw [heq, roundEven_scaled hd x.exponent (x.low_ge.trans hlow) hhigh]
      · rfl
      · rintro (hl | hh)
        · exact heven (.inl (le_antisymm (hl.trans_le x.low_ge) hlow))
        · exact heven (.inr hh)
    · obtain ⟨hmant, hnormal⟩ := h.tight.1 htight
      have hmantq : (x.mantissa : ℚ) = 2 ^ 52 := by exact_mod_cast hmant
      have hstep : (2 : ℚ) ^ x.exponent = 2 * 2 ^ (x.exponent - 1) := by
        rw [← zpow_one_add₀ (by norm_num)]
        congr 1
        ring
      have hround : roundEven (n * (power 2 (x.exponent - 1)).2)
          (d * (power 2 (x.exponent - 1)).1) = 2 ^ 53 := by
        refine roundEven_scaled hd _ ?_ ?_ fun _ => rfl
        · refine le_trans ?_ hlow
          unfold low
          rw [if_pos htight, hmantq, hstep]
          apply le_of_eq
          push_cast
          ring
        · refine hbelow.le.trans ?_
          rw [zpow_add₀ (by norm_num), hstep]
          have : (0 : ℚ) < 2 ^ (x.exponent - 1) := by positivity
          push_cast
          norm_num
          linarith
      rw [heq, hround]
      unfold bits
      omega
  simp only [nearestBits, Nat.pow_eq, infiniteBits, hbits]
  omega

theorem Sound.low_gt (h : x.Sound) (hm : 0 < x.mantissa) : (2 : ℚ) ^ (-1076 : Int) < x.low := by
  have hmant : (1 : ℚ) ≤ x.mantissa := by exact_mod_cast hm
  have hexp : (2 : ℚ) ^ (-1074 : Int) ≤ 2 ^ x.exponent :=
    zpow_le_zpow_right₀ (by norm_num) h.exponent_ge
  have hstep : (2 : ℚ) ^ (-1074 : Int) = 4 * 2 ^ (-1076 : Int) := by
    rw [show (4 : ℚ) = 2 ^ (2 : Int) by norm_num, ← zpow_add₀ (by norm_num)]
    norm_num
  have hpos : (0 : ℚ) < 2 ^ (-1076 : Int) := by positivity
  calc (2 : ℚ) ^ (-1076 : Int) < 1 / 2 * 2 ^ (-1074 : Int) := by rw [hstep]; linarith
    _ ≤ (x.mantissa - 1 / 2) * 2 ^ x.exponent := by gcongr <;> linarith
    _ ≤ x.low := x.low_ge

/-- What is rounded to a float is neither too large nor too small to be worked out. -/
theorem Sound.exponent_bounds (h : x.Sound) (hm : 0 < x.mantissa) {digits : Nat} {e : Int}
    (hv : x.Rounds (digits * 10 ^ e)) :
    digits ≠ 0 ∧ e ≤ 2048 ∧ -(2048 + digits.log2 : Int) ≤ e := by
  have hlow := (h.low_gt hm).trans_le hv.1
  have hpos : (0 : ℚ) < 10 ^ e := by positivity
  have hdigits : digits ≠ 0 := by
    rintro rfl
    rw [Nat.cast_zero, zero_mul] at hlow
    exact absurd hlow (by norm_num)
  refine ⟨hdigits, ?_, ?_⟩
  · by_contra hlarge
    have hone : (1 : ℚ) ≤ digits := by exact_mod_cast Nat.one_le_iff_ne_zero.2 hdigits
    have : (10 : ℚ) ^ (1024 : Int) < 10 ^ (1024 : Int) := calc
      (10 : ℚ) ^ (1024 : Int) ≤ 10 ^ e := zpow_le_zpow_right₀ (by norm_num) (by omega)
      _ ≤ digits * 10 ^ e := le_mul_of_one_le_left hpos.le hone
      _ ≤ x.high := hv.2.1
      _ < 2 ^ (x.exponent + 53) := h.high_lt
      _ ≤ 2 ^ (1024 : Int) := zpow_le_zpow_right₀ (by norm_num) (by have := h.exponent_le; omega)
      _ ≤ 10 ^ (1024 : Int) := by
          rw [← Nat.cast_ofNat (R := Int), zpow_natCast, zpow_natCast]
          exact pow_le_pow_left₀ (by norm_num) (by norm_num) _
    exact lt_irrefl _ this
  · by_contra hsmall
    have hten : (digits : ℚ) < 10 ^ (digits.log2 + 1) := calc
      (digits : ℚ) < 2 ^ (digits.log2 + 1) := by exact_mod_cast Nat.lt_log2_self
      _ ≤ 10 ^ (digits.log2 + 1) := pow_le_pow_left₀ (by norm_num) (by norm_num) _
    have : (10 : ℚ) ^ (-1076 : Int) < 10 ^ (-1076 : Int) := calc
      (10 : ℚ) ^ (-1076 : Int) ≤ 2 ^ (-1076 : Int) := by
          rw [zpow_neg, zpow_neg, ← Nat.cast_ofNat (R := Int), zpow_natCast, zpow_natCast]
          exact inv_anti₀ (by positivity) (pow_le_pow_left₀ (by norm_num) (by norm_num) _)
      _ < digits * 10 ^ e := hlow
      _ ≤ 10 ^ (digits.log2 + 1) * 10 ^ e := by gcongr
      _ = 10 ^ ((digits.log2 + 1 : Nat) + e : Int) := by
          rw [zpow_add₀ (by norm_num), zpow_natCast]
      _ ≤ 10 ^ (-1076 : Int) := zpow_le_zpow_right₀ (by norm_num) (by push_cast; omega)
    exact lt_irrefl _ this

theorem Sound.toFloat_eq (h : x.Sound) (hm : 0 < x.mantissa) {digits : Nat} {e : Int}
    (hv : x.Rounds (digits * 10 ^ e)) : toFloat digits e = ofNatBits x.bits := by
  obtain ⟨hdigits, htop, hbottom⟩ := h.exponent_bounds hm hv
  obtain ⟨hn, hd⟩ := power_pos (by norm_num : 0 < 10) e
  have hpower := power_eq 10 e
  have hvalue : ((digits * (power 10 e).1 : Nat) : ℚ) / ((power 10 e).2 : Nat) =
      digits * 10 ^ e := by
    push_cast at hpower ⊢
    rw [mul_div_assoc, hpower]
  have hbits := h.nearestBits_eq (Nat.mul_pos (Nat.pos_of_ne_zero hdigits) hn) hd (hvalue ▸ hv)
  simp only [toFloat, hdigits, ↓reduceIte, hbits]
  rw [if_neg (by omega), if_neg (by omega)]

end Binary

end Dialogue.Decimal

/-!
The fewest digits of a float are rounded to it again. At the latest they are found among seventeen,
where half a step of the grid is less than the distance to the half-way points.
-/

namespace Dialogue.Decimal

/-- Estimates of decimal logarithms by a fraction that is slightly above that of two. -/
theorem ten_zpow_le {p q : Nat} (hq : 0 < q) (hlow : (2 : ℚ) ^ q ≤ 10 ^ p)
    (hhigh : (10 : ℚ) ^ p ≤ 2 ^ (q + 1)) {l : Int} (hl : l ≤ q) :
    (10 : ℚ) ^ (l * p / q - 1) ≤ 2 ^ l := by
  have hq' : (0 : Int) < q := by exact_mod_cast hq
  have hdiv : (l * p / q) * q ≤ l * p := Int.ediv_mul_le _ hq'.ne'
  have hpow : ((10 : ℚ) ^ (l * p / q - 1)) ^ q ≤ (2 ^ l) ^ q := by
    rw [← zpow_natCast, ← zpow_natCast, ← zpow_mul, ← zpow_mul, sub_mul, one_mul]
    calc (10 : ℚ) ^ (l * p / q * q - q : Int) ≤ 10 ^ (l * p - q : Int) :=
          zpow_le_zpow_right₀ (by norm_num) (by omega)
      _ ≤ 2 ^ (l * q : Int) := ?_
    obtain ⟨n, rfl | rfl⟩ := Int.eq_nat_or_neg l
    · have hn : n ≤ q := by exact_mod_cast hl
      rw [zpow_sub₀ (by norm_num), div_le_iff₀ (by positivity)]
      norm_cast
      calc 10 ^ (n * p) = (10 ^ p) ^ n := by rw [mul_comm, pow_mul]
        _ ≤ (2 ^ (q + 1)) ^ n := Nat.pow_le_pow_left (by exact_mod_cast hhigh) n
        _ = 2 ^ (n * q) * 2 ^ n := by rw [← pow_mul, ← pow_add]; congr 1; ring
        _ ≤ 2 ^ (n * q) * 10 ^ q := Nat.mul_le_mul_left _ ((Nat.pow_le_pow_right (by norm_num) hn).trans
            (Nat.pow_le_pow_left (by norm_num) q))
    · calc (10 : ℚ) ^ (-(n : Int) * p - q) ≤ 10 ^ (-(n * p : Nat) : Int) :=
            zpow_le_zpow_right₀ (by norm_num) (by push_cast; nlinarith)
        _ ≤ 2 ^ (-(n * q : Nat) : Int) := by
            rw [zpow_neg, zpow_neg, zpow_natCast, zpow_natCast]
            refine inv_anti₀ (by positivity) ?_
            rw [mul_comm n q, mul_comm n p, pow_mul, pow_mul]
            exact pow_le_pow_left₀ (by positivity) hlow n
        _ = 2 ^ (-(n : Int) * q) := by congr 1; push_cast; ring
  exact (pow_le_pow_iff_left₀ (by positivity) (by positivity) hq.ne').1 hpow

namespace Scaled

variable {s : Scaled}

theorem admits_of_neighbour? {n : Nat} (h : s.neighbour? = some n) : s.admits n = true := by
  simp only [neighbour?] at h
  split at h
  · split at h <;> cases h <;> assumption
  · cases h
    assumption
  · cases h
    assumption
  · cases h

theorem exists_neighbour? (h : s.admits (s.value / s.grid) = true ∨
    s.admits (s.value / s.grid + 1) = true) : ∃ n, s.neighbour? = some n := by
  simp only [neighbour?]
  split
  · split <;> exact ⟨_, rfl⟩
  · exact ⟨_, rfl⟩
  · exact ⟨_, rfl⟩
  · rename_i hlow hhigh
    simp [hlow, hhigh] at h

/-- A grid whose half step is less than the distance to either half-way point has a point between
them. -/
theorem exists_neighbour?_of_fine (width : Nat) (hpos : 0 < s.grid) (hgrid : s.grid < 2 * width)
    (hbelow : s.below + width ≤ s.value) (habove : s.value + width ≤ s.above) :
    ∃ n, s.neighbour? = some n := by
  have hvalue := Nat.div_add_mod s.value s.grid
  have hinside {n : Nat} (hlow : s.below < n * s.grid) (hhigh : n * s.grid < s.above) :
      s.admits n = true := by
    unfold admits
    split <;> simp [hlow, hhigh, hlow.le, hhigh.le]
  have hrest := Nat.mod_lt s.value hpos
  apply exists_neighbour?
  rw [mul_comm] at hvalue
  by_cases hhalf : 2 * (s.value % s.grid) ≤ s.grid
  · exact .inl (hinside (by omega) (by omega))
  · refine .inr (hinside ?_ ?_) <;> rw [Nat.add_mul, Nat.one_mul] <;> omega

end Scaled

namespace Binary

variable {x : Binary}

def value (x : Binary) : ℚ := x.mantissa * 2 ^ x.exponent

/-- The unit of a scaled float. -/
def unit (x : Binary) (k : Int) : ℚ := 4 * (power 2 x.exponent).2 * (power 10 k).2

theorem unit_pos (x : Binary) (k : Int) : 0 < x.unit k := by
  have h2 : (0 : ℚ) < (power 2 x.exponent).2 := by
    exact_mod_cast (power_pos Nat.two_pos x.exponent).2
  have h10 : (0 : ℚ) < (power 10 k).2 := by exact_mod_cast (power_pos (by norm_num) k).2
  unfold unit
  positivity

theorem scale_value (x : Binary) (k : Int) : ((x.scale k).value : ℚ) = x.value * x.unit k := by
  have h2 : (0 : ℚ) < (power 2 x.exponent).2 := by
    exact_mod_cast (power_pos Nat.two_pos x.exponent).2
  have hpower := power_eq 2 x.exponent
  simp only [value, unit, scale]
  push_cast at hpower ⊢
  rw [← hpower]
  field_simp

theorem scale_grid (x : Binary) (k : Int) : ((x.scale k).grid : ℚ) = 10 ^ k * x.unit k := by
  have h10 : (0 : ℚ) < (power 10 k).2 := by exact_mod_cast (power_pos (by norm_num) k).2
  have hpower := power_eq 10 k
  simp only [unit, scale]
  push_cast at hpower ⊢
  rw [← hpower]
  field_simp

theorem scale_above (x : Binary) (k : Int) : ((x.scale k).above : ℚ) = x.high * x.unit k := by
  have h2 : (0 : ℚ) < (power 2 x.exponent).2 := by
    exact_mod_cast (power_pos Nat.two_pos x.exponent).2
  have hpower := power_eq 2 x.exponent
  simp only [high, unit, scale]
  push_cast at hpower ⊢
  rw [← hpower]
  field_simp
  ring

theorem scale_below (hm : 0 < x.mantissa) (k : Int) :
    ((x.scale k).below : ℚ) = x.low * x.unit k := by
  have h2 : (0 : ℚ) < (power 2 x.exponent).2 := by
    exact_mod_cast (power_pos Nat.two_pos x.exponent).2
  have hpower := power_eq 2 x.exponent
  have hle : (if x.tight then 1 else 2) ≤ 4 * x.mantissa := by split <;> omega
  simp only [low, unit, scale]
  rw [Nat.cast_mul, Nat.cast_sub hle]
  push_cast at hpower ⊢
  rw [← hpower]
  split
  · field_simp
  · field_simp
    ring

theorem admits_iff (hm : 0 < x.mantissa) (k : Int) (n : Nat) :
    (x.scale k).admits n = true ↔ x.Rounds (n * 10 ^ k) := by
  have hunit := x.unit_pos k
  have hpoint : ((n * (x.scale k).grid : Nat) : ℚ) = n * 10 ^ k * x.unit k := by
    rw [Nat.cast_mul, scale_grid, mul_assoc]
  have hlow : (x.scale k).below ≤ n * (x.scale k).grid ↔ x.low ≤ n * 10 ^ k := by
    rw [← mul_le_mul_iff_of_pos_right hunit, ← hpoint, ← scale_below hm, Nat.cast_le]
  have hhigh : n * (x.scale k).grid ≤ (x.scale k).above ↔ n * 10 ^ k ≤ x.high := by
    rw [← mul_le_mul_iff_of_pos_right hunit, ← hpoint, ← scale_above, Nat.cast_le]
  have hlow' : n * (x.scale k).grid = (x.scale k).below ↔ n * 10 ^ k = x.low := by
    rw [← mul_left_inj' hunit.ne', ← hpoint, ← scale_below hm, Nat.cast_inj]
  have hhigh' : n * (x.scale k).grid = (x.scale k).above ↔ n * 10 ^ k = x.high := by
    rw [← mul_left_inj' hunit.ne', ← hpoint, ← scale_above, Nat.cast_inj]
  rw [Rounds, ← hlow, ← hhigh, ← hlow', ← hhigh', Scaled.admits]
  have heven : (x.scale k).even = decide (x.mantissa % 2 = 0) := rfl
  rw [heven]
  by_cases hmod : x.mantissa % 2 = 0
  · simp [hmod]
  · simp only [hmod, decide_false, Bool.false_eq_true, ↓reduceIte, Bool.and_eq_true,
      decide_eq_true_eq, imp_false, not_or]
    omega

/-- The half-way points are further away than the last of seventeen digits. -/
theorem Sound.exists_neighbour? (h : x.Sound) (hm : 0 < x.mantissa) {lead : Int}
    (hlead : (10 : ℚ) ^ lead ≤ x.value) : ∃ n, (x.scale (lead - 16)).neighbour? = some n := by
  have hunit := x.unit_pos (lead - 16)
  have hpos : 0 < (x.scale (lead - 16)).grid := by
    have : (0 : ℚ) < (x.scale (lead - 16)).grid := by
      rw [scale_grid]
      positivity
    exact_mod_cast this
  have hgrid : 10 ^ 16 * (x.scale (lead - 16)).grid ≤ (x.scale (lead - 16)).value := by
    have : ((10 ^ 16 * (x.scale (lead - 16)).grid : Nat) : ℚ) ≤ (x.scale (lead - 16)).value := by
      rw [scale_value, Nat.cast_mul, scale_grid, ← mul_assoc]
      gcongr
      refine le_of_eq_of_le ?_ hlead
      rw [zpow_sub₀ (by norm_num)]
      push_cast
      field_simp
    exact_mod_cast this
  have hstep : 0 < (power 2 x.exponent).1 * (power 10 (lead - 16)).2 :=
    Nat.mul_pos (power_pos Nat.two_pos _).1 (power_pos (by norm_num) _).2
  have hwidth : 4 * x.mantissa ≤ 2 ^ 54 * (if x.tight then 1 else 2) := by
    have := h.mantissa_lt
    split
    · rename_i htight
      have := (h.tight.1 htight).1
      omega
    · omega
  have hle : (if x.tight then 1 else 2) ≤ 4 * x.mantissa := by split <;> omega
  have htwo : (if x.tight then 1 else 2) ≤ 2 := by split <;> omega
  refine Scaled.exists_neighbour?_of_fine ((if x.tight then 1 else 2) *
    ((power 2 x.exponent).1 * (power 10 (lead - 16)).2)) hpos ?_ ?_ ?_
  all_goals
    simp only [scale] at hgrid ⊢
    generalize (power 2 x.exponent).1 * (power 10 (lead - 16)).2 = step at *
    generalize (if x.tight then 1 else 2) = t at *
  · nlinarith
  · rw [← Nat.add_mul, Nat.sub_add_cancel hle]
  · rw [← Nat.add_mul]
    exact Nat.mul_le_mul_right _ (by omega)

/-- The place that is found is at most that of the leading digit. -/
theorem leading_le {guess : Int} (hguess : (10 : ℚ) ^ (guess - 1) ≤ x.value) :
    (10 : ℚ) ^ x.leading guess ≤ x.value := by
  have hunit := x.unit_pos guess
  have hgrid : (x.scale guess).value < (x.scale guess).grid ↔ x.value < 10 ^ guess := by
    rw [← mul_lt_mul_iff_of_pos_right hunit, ← scale_value, ← scale_grid, Nat.cast_lt]
  have hnext : 10 * (x.scale guess).grid ≤ (x.scale guess).value ↔ 10 ^ (guess + 1) ≤ x.value := by
    rw [← mul_le_mul_iff_of_pos_right hunit, ← scale_value, zpow_add_one₀ (by norm_num),
      mul_comm _ 10, mul_assoc, ← scale_grid]
    exact_mod_cast Iff.rfl
  simp only [leading, hgrid, hnext]
  split
  · exact hguess
  · rename_i hle
    split
    · assumption
    · exact not_lt.1 hle

theorem Sound.estimate_le (h : x.Sound) (hm : 0 < x.mantissa) :
    (10 : ℚ) ^ (x.estimate - 1) ≤ x.value := by
  have hlog : x.mantissa.log2 < 53 := (Nat.log2_lt hm.ne').2 h.mantissa_lt
  have hmant : (2 : ℚ) ^ (x.mantissa.log2 : Int) ≤ x.mantissa := by
    rw [zpow_natCast]
    exact_mod_cast Nat.log2_self_le hm.ne'
  have hlow : (2 : ℚ) ^ 100000 ≤ 10 ^ 30103 := by
    exact_mod_cast (by decide +kernel : 2 ^ 100000 ≤ 10 ^ 30103)
  have hhigh : (10 : ℚ) ^ 30103 ≤ 2 ^ (100000 + 1) := by
    exact_mod_cast (by decide +kernel : 10 ^ 30103 ≤ 2 ^ (100000 + 1))
  have hexp := h.exponent_le
  calc (10 : ℚ) ^ (x.estimate - 1) ≤ 2 ^ (x.mantissa.log2 + x.exponent) :=
        ten_zpow_le (by norm_num) hlow hhigh (by push_cast; omega)
    _ = 2 ^ (x.mantissa.log2 : Int) * 2 ^ x.exponent := zpow_add₀ (by norm_num) _ _
    _ ≤ x.value := by
        unfold value
        gcongr

theorem search_rounds (hm : 0 < x.mantissa) {top : Int} {ns : List Nat}
    (h : ∃ n ∈ ns, ∃ digits, (x.scale (top - n)).neighbour? = some digits) :
    x.Rounds ((x.search top ns).digits * 10 ^ (x.search top ns).exponent) := by
  induction ns with
  | nil =>
      obtain ⟨n, hn, -⟩ := h
      cases hn
  | cons n rest ih =>
      simp only [search]
      cases hn : (x.scale (top - n)).neighbour? with
      | some digits => exact (admits_iff hm _ _).1 (Scaled.admits_of_neighbour? hn)
      | none =>
          refine ih ?_
          obtain ⟨k, hk, digits, hdigits⟩ := h
          rcases List.mem_cons.1 hk with rfl | hk
          · rw [hn] at hdigits
            cases hdigits
          · exact ⟨k, hk, digits, hdigits⟩

/-- The shortest digits of a float are rounded to it. -/
theorem Sound.shortest_rounds (h : x.Sound) (hm : 0 < x.mantissa) :
    x.Rounds (x.shortest.digits * 10 ^ x.shortest.exponent) := by
  rw [shortest, if_neg hm.ne']
  refine search_rounds hm ⟨16, by simp, ?_⟩
  exact h.exists_neighbour? hm (leading_le (h.estimate_le hm))

end Binary

end Dialogue.Decimal
