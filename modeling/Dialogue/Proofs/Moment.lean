import Dialogue.Moment
import Dialogue.Proofs.Text
/-!
A moment is read from its text as it was: the digits of the date and the time, the fraction of a
second, the distance to Greenwich.
-/
namespace Dialogue.Moment

open Dialogue.Text

theorem toNat_digit (n : Nat) : (Char.ofNat (48 + n % 10)).toNat = 48 + n % 10 := by
  have hvalid : (48 + n % 10).isValidChar := .inl (by omega)
  rw [Char.ofNat, dif_pos hvalid]
  rfl

theorem isAsciiDigit_digit (n : Nat) : isAsciiDigit (Char.ofNat (48 + n % 10)) = true := by
  rw [isAsciiDigit_iff, toNat_digit]
  omega

@[simp] theorem length_digitsOf (width n : Nat) : (digitsOf width n).length = width := by
  induction width generalizing n with
  | zero => rfl
  | succ width ih => simp [digitsOf, ih]

theorem isAsciiDigit_digitsOf {width n : Nat} {c : Char} (h : c ∈ digitsOf width n) :
    isAsciiDigit c = true := by
  induction width generalizing n with
  | zero => cases h
  | succ width ih =>
      rcases List.mem_append.1 h with h | h
      · exact ih h
      · rw [List.mem_singleton.1 h]
        exact isAsciiDigit_digit n

/-- Digits that are enough for a number write it. -/
theorem decimalValue_digitsOf {width n : Nat} (h : n < 10 ^ width) :
    decimalValue (digitsOf width n) = n := by
  induction width generalizing n with
  | zero =>
      rw [Nat.lt_one_iff.1 h]
      rfl
  | succ width ih =>
      have hlast : decimalValue [Char.ofNat (48 + n % 10)] = n % 10 := by
        simp [decimalValue, digit?_of_isAsciiDigit (isAsciiDigit_digit n), toNat_digit]
      rw [digitsOf, decimalValue_append, ih (by omega), hlast, List.length_singleton]
      omega

theorem twoDigits?_digitsOf {n : Nat} (h : n < 100) (rest : List Char) :
    twoDigits? (digitsOf 2 n ++ rest) = some (n, rest) := by
  have hvalue : decimalValue (digitsOf 2 n) = n := decimalValue_digitsOf h
  simp only [digitsOf, List.nil_append, List.cons_append] at hvalue ⊢
  simp only [twoDigits?, isAsciiDigit_digit, Bool.and_self, ↓reduceIte, hvalue]

theorem parse?_printDate {d : Date} (h : d.exists? = true) : Date.parse? (printDate d) = some d := by
  have hbounds : d.year ≤ 9999 ∧ d.month ≤ 12 ∧ d.day ≤ 31 := by
    have hdays : Date.daysIn d.year d.month ≤ 31 := by
      unfold Date.daysIn
      split_ifs <;> decide
    simp only [Date.exists?, Bool.and_eq_true, decide_eq_true_eq] at h
    omega
  have hyear : decimalValue (digitsOf 4 d.year) = d.year := decimalValue_digitsOf (by omega)
  have hmonth : decimalValue (digitsOf 2 d.month) = d.month := decimalValue_digitsOf (by omega)
  have hday : decimalValue (digitsOf 2 d.day) = d.day := decimalValue_digitsOf (by omega)
  simp only [printDate, digitsOf, List.nil_append, List.cons_append] at hyear hmonth hday ⊢
  simp only [Date.parse?, hyear, hmonth, hday, List.all_cons, isAsciiDigit_digit, List.all_nil,
    Bool.and_self, ↓reduceIte, Date.ofNumbers?, h]

/-- What may stand behind the time of day: no further digit and no fraction. -/
def EndsTime (tail : List Char) : Prop :=
  ∀ c ∈ tail.head?, isAsciiDigit c = false ∧ c ≠ '.' ∧ c ≠ ','

theorem fraction_digitsOf {n : Nat} (h : n < microsPerSecond) : fraction (digitsOf 6 n) = n := by
  have htake : (digitsOf 6 n ++ List.replicate 6 '0').take 6 = digitsOf 6 n :=
    List.take_left' (length_digitsOf 6 n)
  rw [fraction, htake]
  exact decimalValue_digitsOf h

theorem takeWhile_digitsOf (width n : Nat) {tail : List Char} (h : EndsTime tail) :
    (digitsOf width n ++ tail).takeWhile isAsciiDigit = digitsOf width n := by
  have htail : tail.takeWhile isAsciiDigit = [] := by
    cases tail with
    | nil => rfl
    | cons c cs => simp [(h c rfl).1]
  rw [List.takeWhile_append_of_pos fun c hc => isAsciiDigit_digitsOf hc, htail, List.append_nil]

/-- Seconds, and their fraction if there is one. -/
theorem seconds?_eq {seconds micros : Nat} (hs : seconds < 60) (hm : micros < microsPerSecond)
    {tail : List Char} (h : EndsTime tail) :
    seconds? (':' :: (digitsOf 2 seconds ++
      ((if micros = 0 then [] else '.' :: digitsOf 6 micros) ++ tail))) =
      some (seconds * microsPerSecond + micros, tail) := by
  have htwo := twoDigits?_digitsOf (n := seconds) (by omega)
    ((if micros = 0 then [] else '.' :: digitsOf 6 micros) ++ tail)
  by_cases hzero : micros = 0
  · simp only [hzero, ↓reduceIte, List.nil_append] at htwo ⊢
    simp only [seconds?, htwo, bind, Option.bind, if_neg (Nat.not_le.2 hs)]
    cases tail with
    | nil => simp
    | cons c cs => simp [h c rfl]
  · simp only [hzero, ↓reduceIte, List.cons_append] at htwo ⊢
    have hdigits : (digitsOf 6 micros).isEmpty = false := rfl
    have hdrop : (digitsOf 6 micros ++ tail).drop 6 = tail := List.drop_left' (length_digitsOf 6 micros)
    simp only [seconds?, htwo, Option.bind_eq_bind, Option.bind_some, Nat.not_le.2 hs, decide_true,
      Bool.true_or, takeWhile_digitsOf 6 micros h, hdigits, Bool.false_eq_true, ↓reduceIte,
      fraction_digitsOf hm, length_digitsOf, hdrop, Option.pure_def]

/-- Clocks are less than a day apart. -/
def IsNear (offset : Option Int) : Prop := ∀ distance ∈ offset, distance.natAbs < 24 * 60

theorem isNear_zero : IsNear (some 0) := by
  rintro distance ⟨⟩
  decide

theorem offset?_clock {hours minutes : Nat} (hhours : hours < 24) (hminutes : minutes < 60) :
    offset? ('+' :: (digitsOf 2 hours ++ ':' :: digitsOf 2 minutes)) =
        some (some (hours * 60 + minutes : Int)) ∧
      offset? ('-' :: (digitsOf 2 hours ++ ':' :: digitsOf 2 minutes)) =
        some (some (-(hours * 60 + minutes : Int))) := by
  have hfirst := twoDigits?_digitsOf (n := hours) (by omega) (':' :: digitsOf 2 minutes)
  have hlast := twoDigits?_digitsOf (n := minutes) (by omega) []
  rw [List.append_nil] at hlast
  constructor
  · rw [offset?, hfirst] <;> simp [hlast, hhours, hminutes]
  · rw [offset?, hfirst] <;> simp [hlast, hhours, hminutes]

theorem offset?_printDistance {distance : Int} (h : distance.natAbs < 24 * 60) :
    offset? (printDistance (some distance)) = some (some distance) := by
  obtain ⟨hahead, hbehind⟩ := offset?_clock (by omega : distance.natAbs / 60 < 24)
    (Nat.mod_lt distance.natAbs (by decide : 0 < 60))
  by_cases hsign : distance < 0
  · have hsum : -((distance.natAbs / 60 : Nat) * 60 + (distance.natAbs % 60 : Nat) : Int) =
        distance := by omega
    rw [printDistance, if_pos hsign, hbehind, hsum]
  · have hsum : ((distance.natAbs / 60 : Nat) * 60 + (distance.natAbs % 60 : Nat) : Int) =
        distance := by omega
    rw [printDistance, if_neg hsign, hahead, hsum]

theorem endsTime_printOffset (offset : Option Int) : EndsTime (printOffset offset) := by
  unfold printOffset printDistance
  split
  · rintro c ⟨⟩
    decide
  · split
    · rintro c ⟨⟩
    · split <;> (rintro c ⟨⟩; decide)

theorem offset?_printOffset {offset : Option Int} (h : IsNear offset) :
    offset? (printOffset offset) = some offset := by
  unfold printOffset
  split
  · subst offset
    rfl
  · cases offset with
    | none => rfl
    | some distance => exact offset?_printDistance (h distance rfl)

theorem time?_printTime {micros : Nat} (hm : micros < microsPerDay) {offset : Option Int}
    (h : IsNear offset) :
    time? (printTime micros ++ printOffset offset) = some (micros, offset) := by
  have hseconds : micros / microsPerSecond < 86400 := Nat.div_lt_of_lt_mul (by
    rw [Nat.mul_comm]
    exact hm)
  have hfraction : micros % microsPerSecond < microsPerSecond := Nat.mod_lt _ (by decide)
  have hmicros : micros = micros / microsPerSecond * microsPerSecond + micros % microsPerSecond :=
    (Nat.div_add_mod' _ _).symm
  unfold printTime
  generalize micros / microsPerSecond = seconds at *
  generalize micros % microsPerSecond = fraction at *
  subst hmicros
  have hhours := twoDigits?_digitsOf (n := seconds / 3600) (by omega)
  have hminutes := twoDigits?_digitsOf (n := seconds / 60 % 60) (by omega)
  have hlast := seconds?_eq (Nat.mod_lt seconds (by decide : 0 < 60)) hfraction
    (endsTime_printOffset offset)
  simp only [List.append_assoc, List.cons_append]
  have hhour : ¬ 24 ≤ seconds / 3600 := by omega
  have hminute : ¬ 60 ≤ seconds / 60 % 60 := by omega
  have hparts : seconds / 3600 * 3600 + seconds / 60 % 60 * 60 + seconds % 60 = seconds := by omega
  simp only [time?, hhours, hminutes, hlast, offset?_printOffset h, Option.bind_eq_bind,
    Option.bind_some, hhour, hminute, decide_false, Bool.or_false, Bool.false_eq_true, ↓reduceIte,
    Option.pure_def, Option.some.injEq, Prod.mk.injEq, and_true]
  rw [← Nat.add_assoc, ← Nat.add_mul, hparts]

theorem parse?_print {m : Moment} (h : IsNear m.offset) : parse? m.print.toList = some m := by
  have hlength : (printDate m.date).length = 10 := by simp [printDate]
  have hparts : ofParts? m.date m.micros m.offset = some m := dif_pos ⟨m.isDate, m.inDay⟩
  have hdate : parseDate? m.print.toList = some m := by
    rw [print, String.toList_ofList, printLocal, List.append_assoc]
    simp only [parseDate?, List.take_left' hlength, List.drop_left' hlength, bind, Option.bind,
      parse?_printDate m.isDate, List.cons_append]
    simp [time?_printTime m.inDay h, hparts, isMark]
  rw [parse?, hdate, Option.some_or]

/-- A moment is read from its text as it was. -/
theorem read?_print {m : Moment} (h : IsNear m.offset) : read? (.text m.print) = some m :=
  parse?_print h

end Dialogue.Moment
