/-!
# Binary floating point, exactly

A finite double is an integer times a power of two. This module reads a double
as such a number, rounds an exact quotient to the nearest double, and compares
and truncates doubles without rounding.
-/

namespace SceneBridge.Number

/-! ## Reading a double -/

/-- The finite number `± mantissa · 2 ^ exponent`. -/
structure Binary where
  negative : Bool
  mantissa : Nat
  exponent : Int
  /-- The next smaller double is only half as far away as the next larger one. -/
  narrowBelow : Bool
deriving Repr, DecidableEq

/-- Has the double a set sign bit? -/
def isNegative (x : Float) : Bool :=
  x.toBits >>> 63 == 1

/-- The finite number that a double stands for. -/
def Binary.ofFloat? (x : Float) : Option Binary :=
  let bits := x.toBits
  let e := ((bits >>> 52) &&& 0x7FF).toNat
  let f := (bits &&& 0xFFFFFFFFFFFFF).toNat
  if e == 0x7FF then none
  else if e == 0 then some ⟨isNegative x, f, -1074, false⟩
  else some ⟨isNegative x, Nat.pow 2 52 + f, (e : Int) - 1075, f == 0 && e > 1⟩

/-- The finite number that a double stands for which holds a single-precision number:
its neighbours are the neighbours in single precision. -/
def Binary.ofSingle? (x : Float) : Option Binary :=
  let bits := x.toFloat32.toBits
  let e := ((bits >>> 23) &&& 0xFF).toNat
  let f := (bits &&& 0x7FFFFF).toNat
  if e == 0xFF then none
  else if e == 0 then some ⟨isNegative x, f, -149, false⟩
  else some ⟨isNegative x, Nat.pow 2 23 + f, (e : Int) - 150, f == 0 && e > 1⟩

/-- Numerator of the size of the number. -/
def Binary.numerator (b : Binary) : Nat :=
  b.mantissa * Nat.pow 2 b.exponent.toNat

/-- Denominator of the size of the number. -/
def Binary.denominator (b : Binary) : Nat :=
  Nat.pow 2 (-b.exponent).toNat

/-! ## Rounding to a double -/

/-- `numerator / denominator` rounded to the nearest integer, a half to the even one. -/
def roundHalfEven (numerator denominator : Nat) : Nat :=
  let q := numerator / denominator
  let r := numerator % denominator
  if 2 * r < denominator then q
  else if 2 * r > denominator then q + 1
  else q + q % 2

/-- The bits of the double nearest to `numerator / denominator`, a half to the
even mantissa. `none` if that lies beyond the largest double. -/
def nearestBits? (numerator denominator : Nat) : Option UInt64 :=
  let quotient (e : Int) : Nat × Nat :=
    (numerator * Nat.pow 2 (-e).toNat, denominator * Nat.pow 2 e.toNat)
  -- The quotient by `2 ^ guess` has 52 to 54 binary digits.
  let guess : Int := (numerator.log2 : Int) - denominator.log2 - 53
  let (n, d) := quotient guess
  let e := if n / d < Nat.pow 2 53 then guess else guess + 1
  let e := max e (-1074)
  let (n, d) := quotient e
  let m := roundHalfEven n d
  if m < Nat.pow 2 52 then
    some m.toUInt64
  else
    let bits := (e + 1074).toNat * Nat.pow 2 52 + m
    if bits < 0x7FF * Nat.pow 2 52 then some bits.toUInt64 else none

/-- The double with the given sign and bits of its size. -/
def withSign (negative : Bool) (bits : UInt64) : Float :=
  Float.ofBits (if negative then bits ||| 0x8000000000000000 else bits)

/-- Positive infinity. -/
def infinity : Float :=
  Float.ofBits 0x7FF0000000000000

/-- A value that is not a number. -/
def notANumber : Float :=
  Float.ofBits 0x7FF8000000000000

/-- The double nearest to `± numerator / denominator`; infinite beyond the largest one. -/
def nearest (negative : Bool) (numerator denominator : Nat) : Float :=
  withSign negative ((nearestBits? numerator denominator).getD 0x7FF0000000000000)

/-- The double nearest to an integer, if the integer is not beyond the largest one. -/
def ofInt? (n : Int) : Option Float :=
  (nearestBits? n.natAbs 1).map (withSign (n < 0))

/-- The single-precision number nearest to a double, as a double. -/
def toSingle (x : Float) : Float :=
  x.toFloat32.toFloat

/-! ## Integers and order -/

/-- The integer part of a finite double. -/
def truncate? (x : Float) : Option Int := do
  let b ← Binary.ofFloat? x
  let n : Int := b.numerator / b.denominator
  return if b.negative then -n else n

/-- Does the double have exactly the value `n`? -/
def equalsInt (x : Float) (n : Int) : Bool :=
  match Binary.ofFloat? x with
  | none => false
  | some b =>
    let size := n.natAbs * b.denominator
    size == b.numerator && (size == 0 || b.negative == decide (n < 0))

/-- The integer nearest to a double, a half to the even one. -/
def roundEven? (x : Float) : Option Int := do
  let b ← Binary.ofFloat? x
  let n : Int := roundHalfEven b.numerator b.denominator
  return if b.negative then -n else n

/-! ## Integers and doubles together -/

/-- A number: an integer or a double. -/
inductive Quantity where
  | whole (n : Int)
  | real (x : Float)
deriving Repr

/-- Have two numbers the same value? -/
def Quantity.equal : Quantity → Quantity → Bool
  | .whole a, .whole b => a == b
  | .real a, .real b => a == b
  | .whole n, .real x | .real x, .whole n => equalsInt x n

end SceneBridge.Number
