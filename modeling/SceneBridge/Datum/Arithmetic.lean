import SceneBridge.Convert.Coercion

/-!
# Arithmetic on data

Sums, differences, products and quotients of numbers. Integers stay exact until they
are divided or meet a double. Dividing by zero is a fault, and so is computing with
anything but numbers.
-/

namespace SceneBridge

open Number

namespace Number.Quantity

/-- Two numbers combined, exactly if both are integers. -/
def combine (whole : Int → Int → Int) (real : Float → Float → Float) (a b : Quantity) :
    Except Fault Quantity :=
  match a, b with
  | .whole m, .whole n => .ok (.whole (whole m n))
  | a, b => do return .real (real (← a.toFloat) (← b.toFloat))

/-- The quotient of two numbers, as a double. -/
def divide (a b : Quantity) : Except Fault Float :=
  match a, b with
  | .whole m, .whole n =>
    if n == 0 then .error (.basic .zeroDivision "division by zero")
    else
      match nearestBits? m.natAbs n.natAbs with
      | some bits => .ok (withSign ((m < 0) != (n < 0) && m != 0) bits)
      | none => .error (.basic .overflow "integer division result too large for a float")
  | a, b => do
    let x ← a.toFloat
    let y ← b.toFloat
    if y == 0 then .error (.basic .zeroDivision "float division by zero") else return x / y

end Number.Quantity

namespace Datum

/-- The number that a datum stands for in arithmetic. -/
def operand (d : Datum) : Except Fault Quantity :=
  match d.quantity? with
  | some q => .ok q
  | none => .error (.basic .type ("unsupported operand type: '" ++ d.typeName ++ "'"))

/-- The sum of two data. -/
def plus (a b : Datum) : Except Fault Datum := do
  return ofQuantity (← Quantity.combine (· + ·) (· + ·) (← a.operand) (← b.operand))

/-- The difference of two data. -/
def minus (a b : Datum) : Except Fault Datum := do
  return ofQuantity (← Quantity.combine (· - ·) (· - ·) (← a.operand) (← b.operand))

/-- The product of two data. -/
def times (a b : Datum) : Except Fault Datum := do
  return ofQuantity (← Quantity.combine (· * ·) (· * ·) (← a.operand) (← b.operand))

/-- The datum with the other sign. -/
def negate (a : Datum) : Except Fault Datum := do
  return match ← a.operand with
    | .whole n => .int (-n)
    | .real x => .float (-x)

/-- The quotient of two data. -/
def dividedBy (a b : Datum) : Except Fault Datum := do
  return .float (← Quantity.divide (← a.operand) (← b.operand))

end Datum

end SceneBridge
