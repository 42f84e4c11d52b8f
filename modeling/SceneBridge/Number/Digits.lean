import SceneBridge.Number.Binary

/-!
# Decimal digits of a double

The digits of a finite double, chosen in exact arithmetic: either a given number
of significant digits, or the fewest digits that read back to the same double.
-/

namespace SceneBridge.Number

/-- The number `digits · 10 ^ exponent`. -/
structure Decimal where
  digits : Nat
  exponent : Int
deriving Repr, DecidableEq

/-- Compares `a · 10 ^ i` with the quotient `n / d`. -/
def compareScaled (a : Nat) (i : Int) (n d : Nat) : Ordering :=
  compare (a * Nat.pow 10 i.toNat * d) (n * Nat.pow 10 (-i).toNat)

/-- The least `k` with `n / d < 10 ^ k`, for a quotient that is not zero. -/
def decimalScale (n d : Nat) : Int :=
  let guess : Int := ((n.log2 : Int) - d.log2) * 30103 / 100000
  let candidates := [guess - 1, guess, guess + 1, guess + 2]
  (candidates.find? fun k => compareScaled 1 k n d == .gt).getD (guess + 3)

/-- Does the decimal lie among the reals that round to the size of `b`? -/
def Binary.readsBack (b : Binary) (d : Decimal) : Bool :=
  let den := b.denominator * 4
  let unit := Nat.pow 2 b.exponent.toNat
  let lo := (4 * b.mantissa - if b.narrowBelow then 1 else 2) * unit
  let hi := (4 * b.mantissa + 2) * unit
  let closed := b.mantissa % 2 == 0
  let atLo := compareScaled d.digits d.exponent lo den
  let atHi := compareScaled d.digits d.exponent hi den
  (atLo == .gt || (closed && atLo == .eq)) && (atHi == .lt || (closed && atHi == .eq))

/-- The multiple of `10 ^ exponent` nearest to the size of `b`. -/
def Binary.onGrid (b : Binary) (exponent : Int) : Nat :=
  roundHalfEven (b.numerator * Nat.pow 10 (-exponent).toNat)
    (b.denominator * Nat.pow 10 exponent.toNat)

/-- A decimal on the grid `10 ^ exponent` that reads back to `b`, the nearest if there are several. -/
def Binary.hit? (b : Binary) (exponent : Int) : Option Decimal :=
  let near := b.onGrid exponent
  [near, near - 1, near + 1].map (Decimal.mk · exponent) |>.find? b.readsBack

/-- Moves trailing zeros of the digits into the exponent. -/
def Decimal.strip (d : Decimal) : Nat → Decimal
  | 0 => d
  | n + 1 =>
    if d.digits != 0 && d.digits % 10 == 0 then
      Decimal.strip ⟨d.digits / 10, d.exponent + 1⟩ n
    else
      d

/-- The size of `b`, not zero, with `n` significant digits. -/
def Binary.significant (b : Binary) (n : Nat) : Decimal :=
  let e := decimalScale b.numerator b.denominator - n
  Decimal.strip ⟨b.onGrid e, e⟩ (n + 1)

/-- The size of `b`, not zero, with the fewest digits that read back. Seventeen always do. -/
def Binary.shortest (b : Binary) : Decimal :=
  let scale := decimalScale b.numerator b.denominator
  match (List.range 17).findSome? fun (i : Nat) => b.hit? (scale - i - 1) with
  | some d => d.strip 17
  | none => b.significant 17

/-- The size of `b`, not zero, with the fewest digits that read back, but rounded to at
most `places` digits after the point. -/
def Binary.shortestPlaces (b : Binary) (places : Nat) : Decimal :=
  let d := b.shortest
  if d.exponent < -(places : Int) then
    Decimal.strip ⟨b.onGrid (-(places : Int)), -(places : Int)⟩ (places + 20)
  else d

end SceneBridge.Number
