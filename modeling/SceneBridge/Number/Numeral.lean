import SceneBridge.Text.Blank
import SceneBridge.Text.Digit
import SceneBridge.Number.Binary

/-!
# Reading numbers

Texts that stand for numbers. Digits of any script are accepted, single
underscores may stand between digits, and blanks may surround the number.
-/

namespace SceneBridge.Number

open Text

/-! ## Normal form -/

/-- The blanks around a number: all white space but the control characters that
separate records. -/
def numeralBlank (c : Char) : Bool :=
  isBlank c && !(28 ≤ c.toNat && c.toNat ≤ 31)

/-- The text of a number without surrounding blanks, its digits as ASCII digits. -/
def numeralChars (cs : List Char) : List Char :=
  (trimBy numeralBlank cs).map fun c =>
    match digitValue? c with
    | some d => Char.ofNat (48 + d)
    | none => c

/-- The digits at the start of a text, single underscores between digits left out,
and the rest of the text. -/
def takeDigits : List Char → List Char × List Char
  | [] => ([], [])
  | c :: cs =>
    if !c.isDigit then ([], c :: cs)
    else
      match cs with
      | '_' :: d :: ds =>
        if d.isDigit then
          let (r, rest) := takeDigits (d :: ds)
          (c :: r, rest)
        else ([c], '_' :: d :: ds)
      | cs =>
        let (r, rest) := takeDigits cs
        (c :: r, rest)

/-- The value of some ASCII digits. -/
def digitsValue (ds : List Char) : Nat :=
  ds.foldl (fun n d => 10 * n + (d.toNat - 48)) 0

/-- A sign and what follows it. -/
def takeSign : List Char → Bool × List Char
  | '-' :: cs => (true, cs)
  | '+' :: cs => (false, cs)
  | cs => (false, cs)

/-! ## Integers -/

/-- The most digits that an integer may be written with. -/
def maxDigits : Nat := 4300

/-- The integer that a text stands for. -/
def readInt? (cs : List Char) : Option Int :=
  let (negative, cs) := takeSign (numeralChars cs)
  let (ds, rest) := takeDigits cs
  if ds.isEmpty || !rest.isEmpty || ds.length > maxDigits then none
  else
    let n : Int := digitsValue ds
    some (if negative then -n else n)

/-! ## Floating point -/

/-- An exponent, if the text has one: `e`, a sign and digits. -/
def takeExponent? : List Char → Option (Int × List Char)
  | c :: cs =>
    if c == 'e' || c == 'E' then
      let (negative, cs) := takeSign cs
      let (ds, rest) := takeDigits cs
      if ds.isEmpty then none
      else
        let n : Int := digitsValue ds
        some (if negative then -n else n, rest)
    else none
  | [] => none

/-- The double nearest to `± digits · 10 ^ exponent`. Exponents beyond all doubles are not computed. -/
def nearestDecimal (negative : Bool) (ds : List Char) (exponent : Int) : Float :=
  let m := digitsValue ds
  let size : Int := exponent + ds.length
  if m == 0 || size < -400 then nearest negative 0 1
  else if size - (ds.takeWhile (· == '0')).length > 400 then nearest negative (Nat.pow 2 1100) 1
  else nearest negative (m * Nat.pow 10 exponent.toNat) (Nat.pow 10 (-exponent).toNat)

/-- The double that a text of digits, point and exponent stands for. -/
def readDecimal? (negative : Bool) (cs : List Char) : Option Float :=
  let (whole, rest) := takeDigits cs
  let (fraction, rest) := match rest with
    | '.' :: rest => takeDigits rest
    | rest => ([], rest)
  let ds := whole ++ fraction
  if ds.isEmpty then none
  else
    let shift : Int := -(fraction.length : Int)
    match rest with
    | [] => some (nearestDecimal negative ds shift)
    | rest =>
      match takeExponent? rest with
      | some (e, []) => some (nearestDecimal negative ds (e + shift))
      | _ => none

/-- The double that a text stands for: a decimal, an infinity, or not a number. -/
def readFloat? (cs : List Char) : Option Float :=
  let (negative, cs) := takeSign (numeralChars cs)
  let word := cs.map Char.toLower
  if word == "inf".toList || word == "infinity".toList then
    some (withSign negative infinity.toBits)
  else if word == "nan".toList then
    some (withSign negative notANumber.toBits)
  else
    readDecimal? negative cs

/-! ## Either -/

/-- The number that a text stands for: an integer if it is written as one. A text with a
sign before `nan` stands for none. -/
def readQuantity? (cs : List Char) : Option Quantity :=
  let cs := trim cs
  match readInt? cs with
  | some n => some (.whole n)
  | none =>
    match readFloat? cs with
    | some x => if x.isNaN && cs.map Char.toLower != "nan".toList then none else some (.real x)
    | none => none

end SceneBridge.Number
