import Dialogue.Proofs.Decimal.Float
import Dialogue.Proofs.Decimal.Nearest
import Dialogue.Proofs.Json.Number
import Dialogue.Proofs.Numeral
/-!
Printed numbers are read as the numbers that they were.
-/
namespace Dialogue

open Dialogue.Text

namespace Decimal

/-- Digits of a number other than zero. -/
structure IsDigits (ds : List Char) : Prop where
  head : ∃ d rest, ds = d :: rest ∧ d ≠ '0'
  digits : ∀ c ∈ ds, isAsciiDigit c = true

theorem isDigits_toDigits {n : Nat} (h : 0 < n) : IsDigits (Nat.toDigits 10 n) where
  head := head_toDigits h
  digits _ := isAsciiDigit_toDigits

theorem eq_dropZeros_append (ds : List Char) :
    ∃ n, ds = dropZeros ds ++ List.replicate n '0' := by
  have hzeros : ds.reverse.takeWhile (· = '0') =
      List.replicate (ds.reverse.takeWhile (· = '0')).length '0' :=
    List.eq_replicate_of_mem fun c hc => by
      simpa using List.all_eq_true.1 List.all_takeWhile c hc
  refine ⟨(ds.reverse.takeWhile (· = '0')).length, ?_⟩
  calc ds = (ds.reverse.takeWhile (· = '0') ++ ds.reverse.dropWhile (· = '0')).reverse := by
        rw [List.takeWhile_append_dropWhile, List.reverse_reverse]
    _ = dropZeros ds ++ (ds.reverse.takeWhile (· = '0')).reverse := List.reverse_append
    _ = _ := by rw [hzeros, List.reverse_replicate, List.length_replicate]

theorem IsDigits.dropZeros {ds : List Char} (h : IsDigits ds) : IsDigits (dropZeros ds) := by
  obtain ⟨n, hn⟩ := eq_dropZeros_append ds
  obtain ⟨d, rest, hd, hne⟩ := h.head
  refine ⟨?_, fun c hc => h.digits c (by rw [hn]; exact List.mem_append_left _ hc)⟩
  cases hdrop : Decimal.dropZeros ds with
  | nil =>
      rw [hdrop, hd, List.nil_append] at hn
      have hmem : d ∈ List.replicate n '0' := by rw [← hn]; exact List.mem_cons_self
      exact absurd (List.eq_of_mem_replicate hmem) hne
  | cons c cs =>
      rw [hdrop, hd] at hn
      cases hn
      exact ⟨d, cs, rfl, hne⟩

/-- What the text of a float is made of: an unsigned number that is not an integer. -/
structure Writes (text : List Char) (v : ℚ) (l : Json.Literal) : Prop where
  sound : l.Sound
  unsigned : l.negative = false
  broken : ¬ (l.fraction = [] ∧ l.exponent = none)
  chars : text = l.chars
  value : (decimalValue (l.whole ++ l.fraction) : ℚ) * 10 ^ l.power = v

theorem exponentText_eq (e : Int) :
    ∃ x : Json.Exponent, x.Sound ∧ (exponentText e).toList = x.chars ∧ x.value = e := by
  have hdigits : ∃ ds, (if (toString e.natAbs).length < 2 then "0" ++ toString e.natAbs
      else toString e.natAbs).toList = ds ∧ ds ≠ [] ∧ (∀ c ∈ ds, isAsciiDigit c = true) ∧
      decimalValue ds = e.natAbs := by
    rw [Nat.toString_eq_repr]
    split
    · refine ⟨_, rfl, by simp, ?_, ?_⟩
      · intro c hc
        rw [String.toList_append, Nat.toList_repr] at hc
        rcases List.mem_cons.1 hc with rfl | hc
        · rfl
        · exact isAsciiDigit_toDigits hc
      · rw [String.toList_append, Nat.toList_repr]
        exact (decimalValue_zeros_append 1 _).trans (decimalValue_toDigits _)
    · refine ⟨_, rfl, by simp, ?_, ?_⟩
      · intro c hc
        rw [Nat.toList_repr] at hc
        exact isAsciiDigit_toDigits hc
      · rw [Nat.toList_repr, decimalValue_toDigits]
  obtain ⟨ds, hds, hne, hall, hvalue⟩ := hdigits
  by_cases he : e < 0
  · refine ⟨⟨'e', ['-'], ds⟩, ⟨.inl rfl, .inr (.inr rfl), hne, hall⟩, ?_, ?_⟩
    · simp only [exponentText, he, ↓reduceIte, String.toList_append, hds]
      rfl
    · simp only [Json.Exponent.value, ↓reduceIte, hvalue]
      omega
  · refine ⟨⟨'e', ['+'], ds⟩, ⟨.inl rfl, .inr (.inl rfl), hne, hall⟩, ?_, ?_⟩
    · simp only [exponentText, he, ↓reduceIte, String.toList_append, hds]
      rfl
    · rw [Json.Exponent.value, if_neg (by simp), hvalue]
      omega

theorem writes_point {whole fraction : List Char} {v : ℚ}
    (hwhole : whole = ['0'] ∨
      (∃ d ds, whole = d :: ds ∧ d ≠ '0') ∧ ∀ c ∈ whole, isAsciiDigit c = true)
    (hne : fraction ≠ []) (hfraction : ∀ c ∈ fraction, isAsciiDigit c = true)
    (hvalue : (decimalValue (whole ++ fraction) : ℚ) * 10 ^ (-fraction.length : Int) = v) :
    Writes (whole ++ '.' :: fraction) v ⟨false, whole, fraction, none⟩ where
  sound := ⟨hwhole, hfraction, nofun⟩
  unsigned := rfl
  broken h := hne h.1
  chars := by
    simp [Json.Literal.chars, Json.Literal.fractionChars, Json.Literal.exponentChars, hne]
  value := by simpa [Json.Literal.power] using hvalue

/-- Numbers of the form `0.0012`. -/
theorem IsDigits.lay_small {ds : List Char} (h : IsDigits ds) {place : Int} (hplace : place < 0) :
    ∃ l, Writes (['0'] ++ '.' :: (List.replicate (-place - 1).toNat '0' ++ ds))
      (decimalValue ds * 10 ^ (place + 1 - ds.length : Int)) l := by
  obtain ⟨d, rest, hds, -⟩ := h.head
  refine ⟨_, writes_point (.inl rfl) (by simp [hds]) ?_ ?_⟩
  · intro c hc
    rcases List.mem_append.1 hc with hc | hc
    · rw [List.eq_of_mem_replicate hc]
      rfl
    · exact h.digits c hc
  · have hpower : (-(List.replicate (-place - 1).toNat '0' ++ ds).length : Int) =
        place + 1 - ds.length := by
      rw [List.length_append, List.length_replicate]
      omega
    rw [hpower, show ['0'] = List.replicate 1 '0' from rfl, decimalValue_zeros_append,
      decimalValue_zeros_append]

/-- Numbers of the form `12.0` or `1.2`. -/
theorem IsDigits.lay_plain {ds : List Char} (h : IsDigits ds) {place : Int} (hplace : ¬ place < 0) :
    ∃ l, Writes (ds.take (place.toNat + 1) ++
        List.replicate (place.toNat + 1 - ds.length) '0' ++
        '.' :: (if (ds.drop (place.toNat + 1)).isEmpty then ['0'] else ds.drop (place.toNat + 1)))
      (decimalValue ds * 10 ^ (place + 1 - ds.length : Int)) l := by
  obtain ⟨d, rest, hds, hd⟩ := h.head
  have hwhole : ∀ c ∈ ds.take (place.toNat + 1) ++
      List.replicate (place.toNat + 1 - ds.length) '0', isAsciiDigit c = true := by
    intro c hc
    rcases List.mem_append.1 hc with hc | hc
    · exact h.digits c (List.mem_of_mem_take hc)
    · rw [List.eq_of_mem_replicate hc]
      rfl
  have hhead : ∃ d' ds', ds.take (place.toNat + 1) ++
      List.replicate (place.toNat + 1 - ds.length) '0' = d' :: ds' ∧ d' ≠ '0' :=
    ⟨d, _, by rw [hds, List.take_succ_cons, List.cons_append], hd⟩
  by_cases hlong : ds.length ≤ place.toNat + 1
  · have hrest : ds.drop (place.toNat + 1) = [] := List.drop_eq_nil_of_le hlong
    rw [hrest]
    refine ⟨_, writes_point (.inr ⟨hhead, hwhole⟩) (by simp) (by simp; rfl) ?_⟩
    have hpower : place + 1 - ds.length = (place.toNat + 1 - ds.length : Nat) := by omega
    rw [hpower, zpow_natCast, List.take_of_length_le hlong, show ['0'] = List.replicate 1 '0' from rfl]
    simp only [List.isEmpty_nil, ↓reduceIte]
    rw [decimalValue_append_zeros, decimalValue_append_zeros]
    rw [List.length_replicate]
    push_cast
    field_simp
  · have hrest : ds.drop (place.toNat + 1) ≠ [] := by simpa using hlong
    have hempty : (ds.drop (place.toNat + 1)).isEmpty = false := by simpa using hlong
    have hfull : place.toNat + 1 - ds.length = 0 := by omega
    simp only [hempty, Bool.false_eq_true, ↓reduceIte]
    refine ⟨_, writes_point (.inr ⟨hhead, hwhole⟩) hrest
      (fun c hc => h.digits c (List.mem_of_mem_drop hc)) ?_⟩
    have hpower : (-(ds.drop (place.toNat + 1)).length : Int) = place + 1 - ds.length := by
      rw [List.length_drop]
      omega
    rw [hfull, List.replicate_zero, List.append_nil, List.take_append_drop, hpower]

/-- Numbers of the form `1.2e-07`. -/
theorem IsDigits.lay_scientific {d : Char} {rest : List Char} (h : IsDigits (d :: rest))
    (place : Int) :
    ∃ l, Writes ((if rest = [] then [d] else d :: '.' :: rest) ++ (exponentText place).toList)
      (decimalValue (d :: rest) * 10 ^ (place + 1 - (d :: rest).length : Int)) l := by
  obtain ⟨x, hx, hchars, hvalue⟩ := exponentText_eq place
  refine ⟨⟨false, [d], rest, some x⟩, ⟨.inr ⟨?_, ?_⟩, ?_, ?_⟩, rfl, nofun, ?_, ?_⟩
  · obtain ⟨_, _, hcons, hne⟩ := h.head
    cases hcons
    exact ⟨_, _, rfl, hne⟩
  · simpa using h.digits d (by simp)
  · exact fun c hc => h.digits c (by simp [hc])
  · rintro e ⟨⟩
    exact hx
  · rw [hchars]
    by_cases hrest : rest = [] <;>
      simp [Json.Literal.chars, Json.Literal.fractionChars, Json.Literal.exponentChars, hrest]
  · have hpower : place - rest.length = place + 1 - (d :: rest).length := by
      rw [List.length_cons]
      omega
    simp only [Json.Literal.power, Option.elim_some, hvalue, hpower, List.singleton_append]

theorem IsDigits.lay_writes {ds : List Char} (h : IsDigits ds) (layout : Layout) (place : Int) :
    ∃ l, Writes (layout.lay ds place).toList
      (decimalValue ds * 10 ^ (place + 1 - ds.length : Int)) l := by
  unfold Layout.lay
  split
  · split
    · rename_i hplace
      rw [String.toList_append, show "0.".toList = ['0', '.'] from rfl, String.toList_ofList]
      exact h.lay_small hplace
    · rename_i hplace
      rw [String.toList_ofList]
      exact h.lay_plain hplace
  · split
    · obtain ⟨_, _, hnil, -⟩ := h.head
      cases hnil
    · rw [String.toList_append, String.toList_ofList]
      simpa using h.lay_scientific place
    · rename_i hrest
      rw [String.toList_append, String.toList_ofList]
      simpa [show _ ≠ [] from hrest] using h.lay_scientific place

theorem Binary.Sound.magnitude_writes {b : Binary} (h : b.Sound) (hm : 0 < b.mantissa)
    (layout : Layout) :
    ∃ l v, Writes (layout.magnitude b.shortest).toList v l ∧ b.Rounds v := by
  have hrounds := h.shortest_rounds hm
  have hdigits : b.shortest.digits ≠ 0 := (h.exponent_bounds hm hrounds).1
  unfold Layout.magnitude
  generalize b.shortest = d at *
  rw [if_neg hdigits]
  have hds := isDigits_toDigits (Nat.pos_of_ne_zero hdigits)
  obtain ⟨n, hn⟩ := eq_dropZeros_append (Nat.toDigits 10 d.digits)
  have hvalue : d.digits = decimalValue (dropZeros (Nat.toDigits 10 d.digits)) * 10 ^ n := by
    rw [← decimalValue_append_zeros, ← hn, decimalValue_toDigits]
  have hlength := congrArg List.length hn
  rw [List.length_append, List.length_replicate] at hlength
  have hpower : d.exponent + ((Nat.toDigits 10 d.digits).length - 1 : Int) + 1 -
      (dropZeros (Nat.toDigits 10 d.digits)).length = n + d.exponent := by omega
  obtain ⟨l, hl⟩ := hds.dropZeros.lay_writes layout
    (d.exponent + ((Nat.toDigits 10 d.digits).length - 1 : Int))
  refine ⟨l, _, hl, ?_⟩
  rw [hpower, zpow_add₀ (by norm_num), zpow_natCast, ← mul_assoc]
  have hcast : (decimalValue (dropZeros (Nat.toDigits 10 d.digits)) * 10 ^ n : ℚ) = d.digits := by
    exact_mod_cast hvalue.symm
  rwa [hcast]

theorem Binary.Sound.bits_of_zero {b : Binary} (h : b.Sound) (hm : b.mantissa = 0) :
    b.bits = 0 := by
  have hexponent : b.exponent = -1074 := by
    by_contra hne
    have := h.normal (lt_of_le_of_ne h.exponent_ge (Ne.symm hne))
    omega
  rw [bits, hexponent, hm]
  rfl

end Decimal

namespace Json

/-- A magnitude is printed as a number that is read as it. -/
theorem magnitude_literal {b : Decimal.Binary} (h : b.Sound) :
    ∃ l : Literal, l.Sound ∧ l.negative = false ∧
      (Decimal.json.magnitude b.shortest).toList = l.chars ∧
      ¬ (l.fraction = [] ∧ l.exponent = none) ∧
      Decimal.toFloat (decimalValue (l.whole ++ l.fraction)) l.power =
        Decimal.ofNatBits b.bits := by
  rcases Nat.eq_zero_or_pos b.mantissa with hm | hm
  · refine ⟨⟨false, ['0'], ['0'], none⟩, ⟨.inl rfl, by simp; rfl, nofun⟩, rfl, ?_, by simp, ?_⟩
    · rw [Decimal.Binary.shortest, if_pos hm]
      rfl
    · rw [h.bits_of_zero hm]
      rfl
  · obtain ⟨l, v, hl, hrounds⟩ := h.magnitude_writes hm Decimal.json
    exact ⟨l, hl.sound, hl.unsigned, hl.chars, hl.broken,
      h.toFloat_eq hm (hl.value.symm ▸ hrounds)⟩

/-- The text of a finite float is a number that is read as the float. -/
theorem print_float {x : Float} (h : x.isFinite = true) :
    ∃ l : Literal, l.Sound ∧ (Decimal.json.print x).toList = l.chars ∧ l.value = .ok (.float x) := by
  obtain ⟨b, hb⟩ := Decimal.exists_of_isFinite h
  obtain ⟨hsound, hx⟩ := Decimal.of_ofFloat? hb
  obtain ⟨l, hl, hunsigned, hchars, hbroken, hvalue⟩ := magnitude_literal hsound
  refine ⟨{ l with negative := Decimal.isNegative x }, ⟨hl.whole, hl.fraction, hl.exponent⟩, ?_, ?_⟩
  · simp only [Decimal.Layout.print, hb, String.toList_append, hchars]
    simp only [Literal.chars, hunsigned, Literal.fractionChars, Literal.exponentChars]
    cases Decimal.isNegative x <;> rfl
  · simp only [Literal.value, if_neg hbroken]
    refine congrArg (fun x => Except.ok (Value.float x)) ?_
    exact (congrArg _ hvalue).trans hx

/-- How an integer is written. -/
def Literal.ofInt (n : Int) : Literal := ⟨n < 0, Nat.toDigits 10 n.natAbs, [], none⟩

theorem Literal.sound_ofInt (n : Int) : (ofInt n).Sound where
  whole := by
    rcases Nat.eq_zero_or_pos n.natAbs with hn | hn
    · exact .inl (by rw [ofInt, hn]; rfl)
    · exact .inr ⟨head_toDigits hn, fun _ => isAsciiDigit_toDigits⟩
  fraction := nofun
  exponent := nofun

theorem Literal.chars_ofInt (n : Int) : (ofInt n).chars = (toString n).toList := by
  rw [Numeral.toString_eq, Nat.toString_eq_repr]
  by_cases hn : n < 0 <;> simp [hn, ofInt, chars, fractionChars, exponentChars]

/-- The text of an integer is a number that is read as the integer. -/
theorem print_int {n : Int} {s : String} (h : Numeral.print n = .ok s) :
    ∃ l : Literal, l.Sound ∧ s.toList = l.chars ∧ l.value = .ok (.int n) := by
  simp only [Numeral.print, ← Numeral.toString_eq] at h
  split at h
  · cases h
  · rename_i hlength
    cases h
    refine ⟨.ofInt n, Literal.sound_ofInt n, (Literal.chars_ofInt n).symm, ?_⟩
    rw [Nat.toString_eq_repr, ← String.length_toList, Nat.toList_repr] at hlength
    simp only [Literal.value, Literal.ofInt, and_self, ↓reduceIte, hlength, decimalValue_toDigits,
      decide_eq_true_eq]
    refine congrArg (fun n => Except.ok (Value.int n)) ?_
    split <;> omega

end Json

end Dialogue
