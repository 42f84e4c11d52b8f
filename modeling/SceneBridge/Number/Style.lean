import SceneBridge.Number.Digits

/-!
# Writing numbers

How the digits of a number are laid out. A style says how many digits are kept,
from which size on an exponent is written, and whether a whole number keeps a
point and a zero.
-/

namespace SceneBridge.Number

/-- The decisions of a number format. -/
structure Style where
  /-- How many significant digits are kept; `none` for the fewest that read back. -/
  precision : Option Nat
  /-- Numbers below `10 ^ positionalBelow` are written without an exponent, down to `10 ^ -4`. -/
  positionalBelow : Int
  /-- A whole number written without an exponent ends in a point and a zero. -/
  keepPoint : Bool

/-- The fewest digits that identify the number; positional below `10 ^ 16`. -/
def Style.exact : Style := ⟨none, 16, true⟩

/-- At most `n` significant digits, without a needless point. -/
def Style.general (n : Nat) : Style := ⟨some n, n, false⟩

/-- An exponent: its sign and at least `least` digits. -/
def exponentText (least : Nat) (e : Int) : String :=
  let ds := toString e.natAbs
  (if e < 0 then "e-" else "e+") ++ "".pushn '0' (least - ds.length) ++ ds

/-- The digits `ds`, the first of them worth `10 ^ e`, with an exponent. -/
def scientificText (ds : List Char) (e : Int) : String :=
  let body := match ds with
    | d :: r@(_ :: _) => d :: '.' :: r
    | ds => ds
  String.ofList body ++ exponentText 2 e

/-- The digits `ds`, the first of them worth `10 ^ e`, without an exponent. -/
def positionalText (keepPoint : Bool) (ds : List Char) (e : Int) : String :=
  if e < 0 then
    "0." ++ String.ofList (List.replicate (-e - 1).toNat '0' ++ ds)
  else
    let whole := e.toNat + 1
    let padded := ds ++ List.replicate (whole - ds.length) '0'
    let fraction := padded.drop whole
    String.ofList (padded.take whole) ++
      if fraction.isEmpty then (if keepPoint then ".0" else "")
      else "." ++ String.ofList fraction

/-- The text of a number whose finite form is `b`. -/
def Style.writeBinary (style : Style) (b : Binary) : String :=
  let sign := if b.negative then "-" else ""
  if b.mantissa == 0 then
    sign ++ if style.keepPoint then "0.0" else "0"
  else
    let d := match style.precision with
      | none => b.shortest
      | some n => b.significant n
    let ds := (toString d.digits).toList
    let e : Int := d.exponent + ds.length - 1
    sign ++ if -4 ≤ e && e < style.positionalBelow then positionalText style.keepPoint ds e
      else scientificText ds e

/-- The text of a number that is not finite. -/
def nonFiniteText (x : Float) : String :=
  if x.isNaN then "nan" else if isNegative x then "-inf" else "inf"

/-- The text of a double. -/
def Style.write (style : Style) (x : Float) : String :=
  match Binary.ofFloat? x with
  | none => nonFiniteText x
  | some b => style.writeBinary b

/-- The text of a single-precision number. -/
def Style.writeSingle (style : Style) (x : Float) : String :=
  match Binary.ofSingle? x with
  | none => nonFiniteText x
  | some b => style.writeBinary b

end SceneBridge.Number
