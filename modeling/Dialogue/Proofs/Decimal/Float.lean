import Dialogue.Proofs.Decimal.Nearest
import Dialogue.Proofs.Numeral
import Mathlib
/-!
The bits of finite floats: a sign, a biased exponent and a fraction.
-/
namespace Dialogue.Decimal

open Float.Model UnpackedFloat

theorem toNat_packComponents (s : Sign) (e : BitVec 11) (m : BitVec 52) :
    (packComponents Format.binary64 s e m).toNat =
      s.toBitVec.toNat * 2 ^ 63 + e.toNat * 2 ^ 52 + m.toNat := by
  simp only [packComponents, BitVec.toNat_append]
  rw [← Nat.shiftLeft_add_eq_or_of_lt m.isLt, ← Nat.shiftLeft_add_eq_or_of_lt e.isLt]
  simp only [Nat.shiftLeft_eq]
  omega

theorem toNat_unpackExponent (b : BitVec Format.binary64.numBits) :
    (unpackExponent b).toNat = b.toNat / 2 ^ 52 % 2 ^ 11 := by
  simp [unpackExponent, BitVec.extractLsb_toNat, Nat.shiftRight_eq_div_pow]

/-- The exponent of infinities and NaN is all ones. -/
theorem unpackExponent_ne {b : BitVec Format.binary64.numBits}
    (h : b.toNat / 2 ^ 52 % 2 ^ 11 ≠ 2047) : unpackExponent b ≠ -1#_ := by
  intro he
  rw [← toNat_unpackExponent, he] at h
  exact h rfl

theorem pack_unpack_of_exponent {b : BitVec Format.binary64.numBits} (h : unpackExponent b ≠ -1#_) :
    (unpack Format.binary64 b).pack Format.binary64 = b := by
  have hnan : isNaNBits b = false := decide_eq_false fun hnan => h hnan.1
  rw [pack_unpack, hnan, if_neg Bool.false_ne_true]

theorem neg_unpack_packComponents (s : Sign) (e : BitVec 11) (m : BitVec 52) :
    (unpack Format.binary64 (packComponents Format.binary64 s e m)).neg =
      unpack Format.binary64 (packComponents Format.binary64 (-s) e m) := by
  simp only [UnpackedFloat.unpack, unpackSign_packComponents, unpackExponent_packComponents,
    unpackMantissa_packComponents, Sign.ofBitVec_toBitVec]
  split_ifs <;> rfl

theorem toBits_ofBits {b : UInt64} (h : b.toNat / 2 ^ 52 % 2 ^ 11 ≠ 2047) :
    (Float.ofBits b).toBits = b :=
  UInt64.toBitVec_inj.1 (pack_unpack_of_exponent (unpackExponent_ne h))

theorem toBits_neg {x : Float} (h : x.toBits.toNat / 2 ^ 52 % 2 ^ 11 ≠ 2047)
    (hpos : x.toBits.toNat < 2 ^ 63) : (-x).toBits.toNat = x.toBits.toNat + 2 ^ 63 := by
  have hsign : Sign.ofBitVec (@unpackSign Format.binary64 x.toBits.toBitVec) = .positive := by
    refine if_pos (BitVec.eq_of_toNat_eq ?_)
    have hbits : x.toBits.toBitVec.toNat = x.toBits.toNat := rfl
    simp [unpackSign, BitVec.extractLsb_toNat, Nat.shiftRight_eq_div_pow]
    omega
  have hparts := @packComponents_unpackSign_unpackExponent_unpackMantissa
    Format.binary64 x.toBits.toBitVec
  rw [hsign] at hparts
  have hbits := congrArg BitVec.toNat hparts
  have hexponent := unpackExponent_ne h
  change ((unpack Format.binary64 x.toBits.toBitVec).neg.pack Format.binary64).toNat = _
  rw [← hparts, neg_unpack_packComponents, pack_unpack_of_exponent
    (by rwa [unpackExponent_packComponents]), toNat_packComponents]
  rw [toNat_packComponents] at hbits
  change 1 * _ + _ + _ = _
  change 0 * _ + _ + _ = x.toBits.toNat at hbits
  omega

theorem isFinite_iff (x : Float) :
    x.isFinite = true ↔ x.toBits.toNat / 2 ^ 52 % 2 ^ 11 ≠ 2047 := by
  change (unpack Format.binary64 x.toBits.toBitVec).isFinite = true ↔ _
  have he : x.toBits.toNat / 2 ^ 52 % 2 ^ 11 =
      (@unpackExponent Format.binary64 x.toBits.toBitVec).toNat :=
    (toNat_unpackExponent x.toBits.toBitVec).symm
  rw [he]
  simp only [UnpackedFloat.unpack]
  split
  · rename_i h
    rw [h]
    split <;> simp [UnpackedFloat.isFinite]
  · rename_i h
    have hne : (@unpackExponent Format.binary64 x.toBits.toBitVec).toNat ≠ 2047 := fun hz =>
      h (BitVec.eq_of_toNat_eq hz)
    split
    · split <;> simpa [UnpackedFloat.isFinite]
    · simpa [UnpackedFloat.isFinite]

theorem toNat_ofNatBits {n : Nat} (h : n < 2047 * 2 ^ 52) : (ofNatBits n).toBits.toNat = n := by
  have hn : (UInt64.ofNat n).toNat = n := UInt64.toNat_ofNat_of_lt (h.trans (by decide))
  rw [ofNatBits, toBits_ofBits (by omega), hn]

theorem toNat_signed {n : Nat} (h : n < 2047 * 2 ^ 52) (negative : Bool) :
    (signed negative (ofNatBits n)).toBits.toNat = n + if negative then 2 ^ 63 else 0 := by
  have hn := toNat_ofNatBits h
  cases negative with
  | false => exact hn
  | true => exact (toBits_neg (by omega) (by omega)).trans (by rw [hn]; rfl)

/-- A finite float is its magnitude with its sign. -/
theorem of_ofFloat? {x : Float} {b : Binary} (h : Binary.ofFloat? x = some b) :
    b.Sound ∧ signed (isNegative x) (ofNatBits b.bits) = x := by
  have hx : x.toBits.toNat < 2 ^ 64 := x.toBits.toBitVec.isLt
  have hsign : x.toBits.toNat = x.toBits.toNat % 2 ^ 63 + if isNegative x then 2 ^ 63 else 0 := by
    simp only [isNegative, Nat.pow_eq, decide_eq_true_eq]
    split <;> omega
  have hb : b.Sound ∧ b.bits = x.toBits.toNat % 2 ^ 63 := by
    unfold Binary.ofFloat? at h
    simp only [Nat.pow_eq] at h
    split at h
    · cases h
    · split at h
      · cases h
        constructor
        · constructor <;> simp
          omega
        · simp only [Binary.bits]
          omega
      · cases h
        constructor
        · constructor <;> simp only [Bool.and_eq_true, decide_eq_true_eq] <;> omega
        · simp only [Binary.bits]
          omega
  refine ⟨hb.1, Float.toBits_inj.1 (UInt64.toNat_inj.1 ?_)⟩
  rw [toNat_signed hb.1.bits_lt, hb.2]
  exact hsign.symm

theorem exists_of_isFinite {x : Float} (h : x.isFinite = true) :
    ∃ b, Binary.ofFloat? x = some b := by
  have hx := (isFinite_iff x).1 h
  unfold Binary.ofFloat?
  simp only [Nat.pow_eq, hx, ↓reduceIte]
  split <;> exact ⟨_, rfl⟩

theorem ofFloat?_of_not_isFinite {x : Float} (h : ¬ x.isFinite = true) :
    Binary.ofFloat? x = none := by
  have hx : x.toBits.toNat / 2 ^ 52 % 2 ^ 11 = 2047 := not_not.1 (mt (isFinite_iff x).2 h)
  simp only [Binary.ofFloat?, Nat.pow_eq, hx, ↓reduceIte]

/-- The integers that floats are have no more bits than the largest float. -/
theorem natAbs_integral?_lt {x : Float} {n : Int} (h : integral? x = some n) :
    ∃ bits ≤ 1024, n.natAbs < 2 ^ bits := by
  obtain ⟨b, hb, h⟩ := Option.bind_eq_some_iff.1 h
  have hsound := (of_ofFloat? hb).1
  have hsign : (if isNegative x then -1 else 1 : Int).natAbs = 1 := by split <;> rfl
  simp only [Nat.pow_eq] at h
  split at h
  · cases h
    refine ⟨53 + b.exponent.toNat, ?_, ?_⟩
    · have hexponent := hsound.exponent_le
      omega
    · rw [Int.natAbs_mul, hsign, one_mul, Int.natAbs_natCast, Nat.pow_add]
      exact Nat.mul_lt_mul_of_pos_right hsound.mantissa_lt (Nat.two_pow_pos _)
  · split at h
    · cases h
      rw [Int.natAbs_mul, hsign, one_mul, Int.natAbs_natCast]
      exact ⟨53, by decide, (Nat.div_le_self _ _).trans_lt hsound.mantissa_lt⟩
    · cases h

end Dialogue.Decimal

/-!
Floats compare as their bits do, read as numbers with the sign in front.
-/
namespace Dialogue.Decimal

open Float.Model UnpackedFloat

def signOf (negative : Bool) : Sign := if negative then .negative else .positive

/-- The unpacked float has the sign, and apart from it the bits. -/
inductive HasBits (s : Sign) (bits : Nat) : UnpackedFloat → Prop where
  | zero (bits_eq : bits = 0) : HasBits s bits (.zero s)
  | finite {m : Nat} {e : Int} (bits_eq : bits = (e + 1074).toNat * 2 ^ 52 + m) (pos : 0 < m)
      (mantissa : m < 2 ^ 53) (normal : -1074 < e → 2 ^ 52 ≤ m) (lowest : -1074 ≤ e)
      (highest : e ≤ 971) : HasBits s bits (.finite s m e pos)
  | infinity (bits_eq : bits = 2047 * 2 ^ 52) : HasBits s bits (.infinity s)

section Comparing

variable {m m' n k : Nat} {e e' : Int} {negative negative' : Bool} {u v : UnpackedFloat}

/-- Of two magnitudes the one with the larger exponent is larger, whatever the mantissas. -/
theorem compare_finite (hn : n = (e + 1074).toNat * 2 ^ 52 + m)
    (hk : k = (e' + 1074).toNat * 2 ^ 52 + m') (hm : m < 2 ^ 53) (hm' : m' < 2 ^ 53)
    (hnormal : -1074 < e → 2 ^ 52 ≤ m) (hnormal' : -1074 < e' → 2 ^ 52 ≤ m') (he : -1074 ≤ e)
    (he' : -1074 ≤ e') : (compare e e').then (compare m m') = compare n k := by
  rcases lt_trichotomy e e' with hlt | rfl | hgt
  · rw [compare_lt_iff_lt.2 hlt, Ordering.lt_then, eq_comm, compare_lt_iff_lt]
    have := hnormal' (by omega)
    omega
  · rw [compare_eq_iff_eq.2 rfl, Ordering.eq_then]
    rcases lt_trichotomy m m' with hlt | rfl | hgt
    · rw [compare_lt_iff_lt.2 hlt, eq_comm, compare_lt_iff_lt]
      omega
    · rw [compare_eq_iff_eq.2 rfl, eq_comm, compare_eq_iff_eq]
      omega
    · rw [compare_gt_iff_gt.2 hgt, eq_comm, compare_gt_iff_gt]
      omega
  · rw [compare_gt_iff_gt.2 hgt, Ordering.gt_then, eq_comm, compare_gt_iff_gt]
    have := hnormal (by omega)
    omega

theorem compare_natCast (n k : Nat) : compare (n : Int) k = compare n k := by
  rcases lt_trichotomy n k with hlt | rfl | hgt
  · rw [compare_lt_iff_lt.2 hlt, compare_lt_iff_lt]
    omega
  · exact (compare_eq_iff_eq.2 rfl).trans (compare_eq_iff_eq.2 rfl).symm
  · rw [compare_gt_iff_gt.2 hgt, compare_gt_iff_gt]
    omega

theorem compare_neg_natCast (n k : Nat) : compare (-n : Int) (-k) = (compare n k).swap := by
  rcases lt_trichotomy n k with hlt | rfl | hgt
  · rw [compare_lt_iff_lt.2 hlt, Ordering.swap_lt, compare_gt_iff_gt]
    omega
  · exact (compare_eq_iff_eq.2 rfl).trans (congrArg Ordering.swap (compare_eq_iff_eq.2 rfl)).symm
  · rw [compare_gt_iff_gt.2 hgt, Ordering.swap_gt, compare_lt_iff_lt]
    omega

theorem HasBits.compare_eq (hu : HasBits (signOf negative) n u) (hv : HasBits (signOf negative') k v) :
    u.compare v = some (compare (Numeral.signed negative n) (Numeral.signed negative' k)) := by
  have hlt {a b : Int} (h : a < b) : some Ordering.lt = some (compare a b) :=
    congrArg some (compare_lt_iff_lt.2 h).symm
  have hgt {a b : Int} (h : b < a) : some Ordering.gt = some (compare a b) :=
    congrArg some (compare_gt_iff_gt.2 h).symm
  have heq {a b : Int} (h : a = b) : some Ordering.eq = some (compare a b) :=
    congrArg some (compare_eq_iff_eq.2 h).symm
  cases hu <;> cases hv
  case zero.zero hn hk =>
    cases negative <;> cases negative' <;>
      exact heq (by simp only [Numeral.signed_false, Numeral.signed_true]; omega)
  case finite.finite hn pos mantissa normal lowest highest m' e' hk pos' mantissa' normal' lowest'
      highest' =>
    have hsame := compare_finite hn hk mantissa mantissa' normal normal' lowest lowest'
    cases negative <;> cases negative'
    · exact congrArg some (hsame.trans (compare_natCast n k).symm)
    · exact hgt (by simp only [Numeral.signed_false, Numeral.signed_true]; omega)
    · exact hlt (by simp only [Numeral.signed_false, Numeral.signed_true]; omega)
    · exact congrArg some ((congrArg Ordering.swap hsame).trans (compare_neg_natCast n k).symm)
  case infinity.infinity hn hk =>
    obtain rfl := hn.trans hk.symm
    cases negative <;> cases negative'
    · exact heq rfl
    · exact hgt (by simp only [Numeral.signed_false, Numeral.signed_true]; omega)
    · exact hlt (by simp only [Numeral.signed_false, Numeral.signed_true]; omega)
    · exact heq rfl
  -- floats of different kinds are told apart by their kinds and signs alone
  all_goals
    cases negative <;> cases negative' <;>
      first
      | exact hlt (by simp only [Numeral.signed_false, Numeral.signed_true]; omega)
      | exact hgt (by simp only [Numeral.signed_false, Numeral.signed_true]; omega)

end Comparing

theorem hasBits_unpack {b : BitVec Format.binary64.numBits} {negative : Bool} {n : Nat}
    (hb : b.toNat = n + if negative then 2 ^ 63 else 0) (hn : n ≤ 2047 * 2 ^ 52) :
    HasBits (signOf negative) n (unpack Format.binary64 b) := by
  have hexponent : (unpackExponent b).toNat = n / 2 ^ 52 := by
    rw [toNat_unpackExponent, hb]
    split <;> omega
  have hmantissa : (unpackMantissa b).toNat = n % 2 ^ 52 := by
    have hlow : (unpackMantissa b).toNat = b.toNat % 2 ^ 52 := by
      simp [unpackMantissa, BitVec.extractLsb_toNat]
    rw [hlow, hb]
    split <;> omega
  have hsign : Sign.ofBitVec (unpackSign b) = signOf negative := by
    have hhigh : (unpackSign b).toNat = if negative then 1 else 0 := by
      rw [show (unpackSign b).toNat = b.toNat / 2 ^ 63 % 2 by
        simp [unpackSign, BitVec.extractLsb_toNat, Nat.shiftRight_eq_div_pow], hb]
      split <;> omega
    have hzero : unpackSign b = 0#1 ↔ negative = false := by
      rw [← BitVec.toNat_inj, hhigh]
      cases negative <;> decide
    rw [Sign.ofBitVec, signOf]
    simp only [hzero]
    cases negative <;> rfl
  have htop : unpackExponent b = -1#11 ↔ n / 2 ^ 52 = 2047 := by
    rw [← BitVec.toNat_inj, hexponent]
    rfl
  have hbottom : unpackExponent b = 0#11 ↔ n / 2 ^ 52 = 0 := by
    rw [← BitVec.toNat_inj, hexponent]
    rfl
  have hwhole : unpackMantissa b = 0#52 ↔ n % 2 ^ 52 = 0 := by
    rw [← BitVec.toNat_inj, hmantissa]
    rfl
  have hbias : Format.binary64.exponentBias = 1023 := rfl
  simp only [UnpackedFloat.unpack, hsign]
  split_ifs with h1 h2 h3 h4
  · rw [htop] at h1
    rw [hwhole] at h2
    exact .infinity (by omega)
  · rw [htop] at h1
    rw [hwhole] at h2
    omega
  · rw [hbottom] at h3
    rw [hwhole] at h4
    exact .zero (by omega)
  · rw [hbottom] at h3
    rw [hwhole] at h4
    refine .finite ?_ _ ?_ ?_ ?_ ?_ <;> simp only [hexponent, hmantissa, hbias] <;> omega
  · rw [htop] at h1
    rw [hbottom] at h3
    have hlead : (1#1 ++ unpackMantissa b).toNat = 2 ^ 52 + n % 2 ^ 52 := by
      rw [BitVec.toNat_append, ← Nat.shiftLeft_add_eq_or_of_lt (unpackMantissa b).isLt, hmantissa]
      rfl
    refine .finite ?_ _ ?_ ?_ ?_ ?_ <;> simp only [hexponent, hlead, hbias] <;> omega

theorem lt_iff (x y : Float) :
    x < y ↔ (unpack Format.binary64 x.toBits.toBitVec).compare
      (unpack Format.binary64 y.toBits.toBitVec) = some .lt := by
  change Float.lt x y = true ↔ _
  rw [Float.lt, decide_eq_true_iff]
  change Float.Model.lt _ _ = true ↔ _
  exact beq_iff_eq

theorem le_iff (x y : Float) :
    x ≤ y ↔ ∃ order, (unpack Format.binary64 x.toBits.toBitVec).compare
      (unpack Format.binary64 y.toBits.toBitVec) = some order ∧ order.isLE = true := by
  change Float.le x y = true ↔ _
  rw [Float.le, decide_eq_true_iff]
  change Option.any (fun order : Ordering => order.isLE) _ = true ↔ _
  exact Option.any_eq_true _ _

section Signed

variable {n k : Nat} (negative negative' : Bool)

theorem hasBits_signed (hn : n ≤ infiniteBits) : HasBits (signOf negative) n
    (unpack Format.binary64 (signed negative (ofNatBits n)).toBits.toBitVec) := by
  refine hasBits_unpack ?_ hn
  rcases hn.lt_or_eq with hlt | rfl
  · exact toNat_signed hlt negative
  · cases negative <;> rfl

theorem compare_signed (hn : n ≤ infiniteBits) (hk : k ≤ infiniteBits) :
    (unpack Format.binary64 (signed negative (ofNatBits n)).toBits.toBitVec).compare
        (unpack Format.binary64 (signed negative' (ofNatBits k)).toBits.toBitVec) =
      some (compare (Numeral.signed negative n) (Numeral.signed negative' k)) :=
  (hasBits_signed negative hn).compare_eq (hasBits_signed negative' hk)

theorem signed_lt_iff (hn : n ≤ infiniteBits) (hk : k ≤ infiniteBits) :
    signed negative (ofNatBits n) < signed negative' (ofNatBits k) ↔
      Numeral.signed negative n < Numeral.signed negative' k := by
  rw [lt_iff, compare_signed negative negative' hn hk, Option.some_inj, compare_lt_iff_lt]

theorem signed_le_iff (hn : n ≤ infiniteBits) (hk : k ≤ infiniteBits) :
    signed negative (ofNatBits n) ≤ signed negative' (ofNatBits k) ↔
      Numeral.signed negative n ≤ Numeral.signed negative' k := by
  rw [le_iff, compare_signed negative negative' hn hk]
  simp [Ordering.isLE_iff_ne_gt, compare_le_iff_le]

end Signed

end Dialogue.Decimal
