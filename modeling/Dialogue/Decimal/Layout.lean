import Dialogue.Decimal.Nearest
/-!
Finite floats as exact fractions, and the fewest decimal digits that read back as the same float.
-/
namespace Dialogue.Decimal

/-- The magnitude `mantissa * 2 ^ exponent` of a finite float. `tight` holds if the next smaller
float is only half as far away as the next larger one. -/
structure Binary where
  mantissa : Nat
  exponent : Int
  tight : Bool
  deriving DecidableEq, Repr

/-- The magnitude of a finite float from its bits; infinities and NaN have none. -/
def Binary.ofFloat? (x : Float) : Option Binary :=
  let bits : Nat := x.toBits.toNat
  let fraction : Nat := bits % Nat.pow 2 52
  let biased : Nat := bits / Nat.pow 2 52 % Nat.pow 2 11
  if biased = 2047 then none
  else if biased = 0 then some ⟨fraction, -1074, false⟩
  else some ⟨fraction + Nat.pow 2 52, (biased : Int) - 1075, fraction = 0 && 1 < biased⟩

/-- The number `digits * 10 ^ exponent`. -/
structure Magnitude where
  digits : Nat
  exponent : Int
  deriving DecidableEq, Repr

def decimalDigits (n : Nat) : List Char := Nat.toDigits 10 n

/-- A value, the points half way to its two neighbours, and a decimal grid, all as multiples of
one unit. -/
structure Scaled where
  value : Nat
  below : Nat
  above : Nat
  grid : Nat
  even : Bool

/-- The value of `x` and the half-way points, measured on the grid of `10 ^ k`. -/
def Binary.scale (x : Binary) (k : Int) : Scaled :=
  let (bn, bd) := power 2 x.exponent
  let (gn, gd) := power 10 k
  let unit := bn * gd
  { value := 4 * x.mantissa * unit
    below := (4 * x.mantissa - (if x.tight then 1 else 2)) * unit
    above := (4 * x.mantissa + 2) * unit
    grid := 4 * gn * bd
    even := x.mantissa % 2 = 0 }

/-- The point `n` of the grid lies between the half-way points; these count if the mantissa is
even. -/
def Scaled.admits (s : Scaled) (n : Nat) : Bool :=
  if s.even then s.below ≤ n * s.grid && n * s.grid ≤ s.above
  else s.below < n * s.grid && n * s.grid < s.above

/-- The admitted neighbour of the value on the grid: the nearer one, and of two equally near ones
the even one. -/
def Scaled.neighbour? (s : Scaled) : Option Nat :=
  let low := s.value / s.grid
  let rest := s.value % s.grid
  match s.admits low, s.admits (low + 1) with
  | true, true =>
      if 2 * rest < s.grid || (2 * rest = s.grid && low % 2 = 0) then some low else some (low + 1)
  | true, false => some low
  | false, true => some (low + 1)
  | false, false => none

/-- The place of the leading digit: `10 ^ k ≤ x < 10 ^ (k + 1)`, near the estimate `guess`. -/
def Binary.leading (x : Binary) (guess : Int) : Int :=
  let s := x.scale guess
  if s.value < s.grid then guess - 1
  else if 10 * s.grid ≤ s.value then guess + 1
  else guess

def Binary.estimate (x : Binary) : Int :=
  ((x.mantissa.log2 : Int) + x.exponent) * 30103 / 100000

/-- The first grid, from coarse to fine, that has an admitted neighbour. -/
def Binary.search (x : Binary) (top : Int) : List Nat → Magnitude
  | [] => ⟨0, 0⟩
  | n :: more =>
      let k := top - n
      match (x.scale k).neighbour? with
      | some digits => ⟨digits, k⟩
      | none => x.search top more

/-- The decimal with the fewest digits that reads back as `x`, the nearest of those. -/
def Binary.shortest (x : Binary) : Magnitude :=
  if x.mantissa = 0 then ⟨0, 0⟩ else x.search (x.leading x.estimate) (List.range 17)

end Dialogue.Decimal

/-!
How the digits of a float are laid out, and the layout that all texts of this library use.
-/
namespace Dialogue.Decimal

/-- Numbers from `10 ^ lowest` up to below `10 ^ highest` are written positionally, the others with
an exponent of at least two digits. -/
structure Layout where
  lowest : Int
  highest : Int
  nan : String
  infinity : String

def plain : Layout := ⟨-4, 16, "nan", "inf"⟩

def json : Layout := ⟨-4, 16, "NaN", "Infinity"⟩

def dropZeros (ds : List Char) : List Char := (ds.reverse.dropWhile (· = '0')).reverse

def exponentText (e : Int) : String :=
  let digits := toString e.natAbs
  (if e < 0 then "e-" else "e+") ++ (if digits.length < 2 then "0" ++ digits else digits)

/-- The text of `digits`, the first of which stands at the place of `10 ^ place`. -/
def Layout.lay (layout : Layout) (digits : List Char) (place : Int) : String :=
  if layout.lowest ≤ place && place < layout.highest then
    if place < 0 then "0." ++ String.ofList (List.replicate (-place - 1).toNat '0' ++ digits)
    else
      let whole := place.toNat + 1
      let units := digits.take whole ++ List.replicate (whole - digits.length) '0'
      let rest := digits.drop whole
      String.ofList (units ++ '.' :: (if rest.isEmpty then ['0'] else rest))
  else
    match digits with
    | [] => ""
    | [d] => String.ofList [d] ++ exponentText place
    | d :: ds => String.ofList (d :: '.' :: ds) ++ exponentText place

def Layout.magnitude (layout : Layout) (d : Magnitude) : String :=
  let digits := decimalDigits d.digits
  let place := d.exponent + (digits.length - 1 : Int)
  if d.digits = 0 then layout.lay ['0'] 0 else layout.lay (dropZeros digits) place

def isNegative (x : Float) : Bool := x.toBits.toNat / Nat.pow 2 63 % 2 = 1

/-- The shortest text of a float that reads back as it. -/
def Layout.print (layout : Layout) (x : Float) : String :=
  match Binary.ofFloat? x with
  | some b => (if isNegative x then "-" else "") ++ layout.magnitude b.shortest
  | none =>
      if x.isNaN then layout.nan
      else if isNegative x then "-" ++ layout.infinity else layout.infinity

/-- The integer that a finite float without a fraction is. -/
def integral? (x : Float) : Option Int := do
  let b ← Binary.ofFloat? x
  let n : Int := if isNegative x then -1 else 1
  if 0 ≤ b.exponent then some (n * (b.mantissa * Nat.pow 2 b.exponent.toNat : Nat))
  else
    let unit := Nat.pow 2 (-b.exponent).toNat
    if b.mantissa % unit = 0 then some (n * (b.mantissa / unit : Nat)) else none

end Dialogue.Decimal

/-!
Floats rounded to a number of places or of significant digits. A half goes to the even neighbour.
-/
namespace Dialogue.Decimal

/-- How often `10 ^ (-places)` goes into a float. -/
def Binary.atPlaces (x : Binary) (places : Nat) : Nat :=
  let (n, d) := power 2 x.exponent
  roundEven (x.mantissa * n * Nat.pow 10 places) d

/-- Digits of a number, the first of which stands at the place of `10 ^ place`. -/
structure Significant where
  digits : List Char
  place : Int

/-- The text of `n`, filled up with zeros from the left. -/
def atLeast (count n : Nat) : List Char :=
  let digits := decimalDigits n
  List.replicate (count - digits.length) '0' ++ digits

/-- A float rounded to `count` significant digits. -/
def Binary.significant (x : Binary) (count : Nat) : Significant :=
  if x.mantissa = 0 then ⟨atLeast count 0, 0⟩
  else
    let lead := x.leading x.estimate
    let (bn, bd) := power 2 x.exponent
    let (gn, gd) := power 10 (lead - (count - 1 : Nat))
    let n := roundEven (x.mantissa * bn * gd) (bd * gn)
    if n < Nat.pow 10 count then ⟨atLeast count n, lead⟩
    else ⟨atLeast count (Nat.pow 10 (count - 1)), lead + 1⟩

/-- The fewest digits that read back as the float. -/
def Binary.fewest (x : Binary) : Significant :=
  let d := x.shortest
  let digits := decimalDigits d.digits
  if d.digits = 0 then ⟨['0'], 0⟩ else ⟨dropZeros digits, d.exponent + (digits.length - 1 : Int)⟩

/-- An integer and a fraction with a point between them; a point at the end only stands if it is
`kept`. -/
def pointed (kept : Bool) (whole fraction : List Char) : List Char :=
  whole ++ (if fraction.isEmpty && !kept then [] else '.' :: fraction)

/-- Digits with the point behind the first one, and an exponent. -/
def Significant.scientific (kept : Bool) (s : Significant) : List Char :=
  pointed kept (s.digits.take 1) (s.digits.drop 1) ++ (exponentText s.place).toList

/-- Digits with the point at its place. -/
def Significant.positional (kept : Bool) (s : Significant) : List Char :=
  if s.place < 0 then
    pointed kept ['0'] (List.replicate (-s.place - 1).toNat '0' ++ s.digits)
  else
    let whole := s.place.toNat + 1
    pointed kept (s.digits.take whole ++ List.replicate (whole - s.digits.length) '0')
      (s.digits.drop whole)

/-- A number with `places` digits behind the point, from how often the last place goes into it. -/
def fixed (kept : Bool) (places n : Nat) : List Char :=
  let digits := atLeast (places + 1) n
  let whole := digits.length - places
  pointed kept (digits.take whole) (digits.drop whole)

end Dialogue.Decimal
