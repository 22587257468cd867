/-!
The float nearest to a fraction. The bits of positive floats, taken as a number, stand in the order
of the floats: one more is the next larger float, also where the exponent changes.
-/
namespace Dialogue.Decimal

/-- `numerator / denominator` of `b ^ e`. -/
def power (b : Nat) (e : Int) : Nat × Nat :=
  if 0 ≤ e then (b.pow e.toNat, 1) else (1, b.pow (-e).toNat)

/-- The integer nearest to a fraction, of two equally near ones the even one. -/
def roundEven (numerator denominator : Nat) : Nat :=
  let low := numerator / denominator
  let rest := 2 * (numerator % denominator)
  if rest < denominator || (rest = denominator && low % 2 = 0) then low else low + 1

/-- The place of the leading binary digit: `2 ^ k ≤ numerator / denominator < 2 ^ (k + 1)`. -/
def leadingBit (numerator denominator : Nat) : Int :=
  let guess : Int := (numerator.log2 : Int) - denominator.log2
  let (bn, bd) := power 2 guess
  if numerator * bd < denominator * bn then guess - 1 else guess

def infiniteBits : Nat := 2047 * Nat.pow 2 52

/-- The bits of the float nearest to a positive fraction; beyond the largest float they are those
of infinity. -/
def nearestBits (numerator denominator : Nat) : Nat :=
  let exponent := max (leadingBit numerator denominator - 52) (-1074)
  let (bn, bd) := power 2 exponent
  min infiniteBits ((exponent + 1074).toNat * Nat.pow 2 52 +
    roundEven (numerator * bd) (denominator * bn))

def ofNatBits (bits : Nat) : Float := Float.ofBits (UInt64.ofNat bits)

/-- The nearest float to `digits * 10 ^ exponent`. Powers of ten far beyond all floats are not worked
out. -/
def toFloat (digits : Nat) (exponent : Int) : Float :=
  if digits = 0 then ofNatBits 0
  else if 2048 < exponent then ofNatBits infiniteBits
  else if exponent < -(2048 + digits.log2) then ofNatBits 0
  else
    let (n, d) := power 10 exponent
    ofNatBits (nearestBits (digits * n) d)

def signed (negative : Bool) (x : Float) : Float := if negative then -x else x

theorem roundEven_mul_left {d : Nat} (h : 0 < d) (n : Nat) : roundEven (d * n) d = n := by
  simp [roundEven, Nat.mul_div_cancel_left n h, h]

end Dialogue.Decimal
