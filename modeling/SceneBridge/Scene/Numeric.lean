import SceneBridge.Object.Items
import SceneBridge.Scene.Linear
import SceneBridge.Values.Build

/-!
# Numeric values as objects

What vectors, rotations, matrices and colours do. Most operations change the object
that they are called on and return it.
-/

namespace SceneBridge

namespace Act

/-! ## New values -/

/-- A new vector or rotation of a class. -/
def newComponents (c : ClassId) (kind : ValueKind) (parts : List Float) : Act Value := do
  return .object (← keep (.ofClass c (.components kind parts)))

/-- A new vector of three components. -/
def newVector3 (parts : List Float) : Act Value :=
  newComponents (.library .vector3) .vector3 parts

/-- A new matrix of a class, its cells row by row. -/
def newMatrix (c : ClassId) (order : Nat) (cells : List Float) : Act Value := do
  let a ← newArray ⟨[order, order], cells⟩
  return .object (← keep { Entity.ofClass c .plain with attributes := [("elements", a)] })

/-- A new transformation. -/
def newMatrix4 (cells : List Float) : Act Value :=
  newMatrix (.library .matrix4) 4 cells

/-! ## Parts -/

/-- The components of a vector or a rotation. -/
def componentsOf (v : Value) : Act (List Float) := do
  match ← body v with
  | .components _ parts => return parts
  | .adapter .. => fail (.privateName "_data")
  | _ => fail (.noAttribute (← typeName v) "_data")

/-- A square array of the given order, which an object has as its elements. -/
def elementsOf (calls : Calls) (v : Value) (order : Nat) : Act (List Float) := do
  match ← arrayOf? (← calls.member v "elements") with
  | some a =>
    if a.shape == [order, order] then return a.cells
    else fail (.basic .value "matmul: Input operand 1 has a mismatch in its core dimension 0")
  | none => fail (.basic .type "unsupported operand type(s) for @")

/-- The rotation matrix that an object makes of itself. -/
def turnOf (calls : Calls) (v : Value) : Act (List Float) := do
  match ← arrayOf? (← calls.send v "rotation_matrix" []) with
  | some a =>
    if a.shape == [3, 3] then return a.cells
    else fail (.basic .value "operands could not be broadcast together")
  | none => fail (.basic .type "unsupported operand type(s) for @")

/-- The numbers of the list that an object makes of itself. -/
def listOf (calls : Calls) (v : Value) : Act (List Float) := do
  return (← ofExcept (← see (← calls.send v "to_array" [])).toArray).cells

/-- The class of an object, or the class itself. -/
def classOf (v : Value) : Act ClassId := do
  match v with
  | .classRef c => return c
  | .object p => return (← entity p).class_
  | _ => return .library .bundle

/-- The kind of numeric value that the instances of a class are. -/
def kindOf (c : ClassId) : Act ValueKind := do
  return (((← get).nearestLibrary? c).bind LibraryClass.valueKind?).getD .vector3

end Act

open Act

/-! ## Vectors and rotations -/

namespace VectorOperation

/-- Replaces the components of the object. -/
def store (i : Invocation) (parts : List Float) : Act Value := do
  change i.place fun e =>
    match e.body with
    | .components kind _ => { e with body := .components kind parts }
    | _ => e
  return i.self

/-- Components of two objects of the same size. -/
def both (i : Invocation) : Act (List Float × List Float) := do
  let a ← componentsOf i.self
  let b ← componentsOf (i.arg "other")
  if a.length != b.length then
    fail (.basic .value "operands could not be broadcast together")
  return (a, b)

/-- The number of each argument. -/
def floats (args : List Value) : Act (List Float) :=
  args.mapM fun a => do ofExcept (← see a).toFloat

/-- What an operation does. -/
def run (op : VectorOperation) (i : Invocation) : Act Value := do
  match op with
  | .make =>
    let c ← classOf i.self
    let kind ← kindOf c
    let args ← i.args.rest.mapM see
    if args.length > kind.size then
      fail (.componentCount ((← get).info c).name kind.size args.length)
    let parts ← ofExcept (args.mapM Datum.toFloat)
    change i.place ({ · with
      body := .components kind (parts ++ List.replicate (kind.size - parts.length) 0) })
    return .null
  | .makeQuaternion =>
    i.makeBase [i.arg "x", i.arg "y", i.arg "z", i.arg "w"]
    return .null
  | .toArray => newList ((← componentsOf i.self).map .float)
  | .set =>
    let parts ← floats i.args.rest
    let old ← componentsOf i.self
    if parts.length > old.length then
      fail (.basic .value "could not broadcast input array")
    store i (parts ++ old.drop parts.length)
  | .copy =>
    let (_, b) ← both i
    store i b
  | .clone =>
    let e ← entity i.place
    return .object (← keep (.ofClass e.class_ e.body))
  | .component index => return .float ((← componentsOf i.self).getD index 0)
  | .setComponent index =>
    let x ← i.float "value"
    store i ((← componentsOf i.self).set index x)
  | .add =>
    let (a, b) ← both i
    store i (Vector.combine (· + ·) a b)
  | .sub =>
    let (a, b) ← both i
    store i (Vector.combine (· - ·) a b)
  | .multiplyScalar =>
    let s ← i.float "s"
    store i (Vector.scale s (← componentsOf i.self))
  | .dot =>
    let (a, b) ← both i
    return .float (Vector.dot a b)
  | .length => return .float (Vector.norm (← componentsOf i.self))
  | .normalize => store i (Vector.normalized (← componentsOf i.self))
  | .cross =>
    match Vector.cross? (← componentsOf i.self) (← componentsOf (i.arg "other")) with
    | some parts => store i parts
    | none => fail (.basic .value "incompatible dimensions for cross product")
  | .applyEuler =>
    let turn ← turnOf i.calls (i.arg "euler")
    store i (Matrix.apply 3 turn (← componentsOf i.self))
  | .applyMatrix =>
    let cells ← elementsOf i.calls (i.arg "m") 4
    store i (Matrix.applyToPoint cells (← componentsOf i.self))
  | .rotationMatrix =>
    match ← componentsOf i.self with
    | [x, y, z] => newArray ⟨[3, 3], Matrix.ofTurns x y z⟩
    | _ => fail (.basic .value "not enough values to unpack")
  | .fromEuler =>
    match ← (← items (i.arg "euler")).mapM fun v => do
        let d ← see v
        match d.quantity? with
        | some q => ofExcept q.toFloat
        | none => fail (.basic .type "can't multiply sequence by non-int of type 'float'") with
    | [x, y, z] => i.calls.call i.self ((quaternionOfTurns x y z).map .float) []
    | _ => fail (.basic .value "not enough values to unpack (expected 3)")

end VectorOperation

/-! ## Matrices -/

namespace MatrixOperation

/-- Replaces the elements of the matrix. -/
def store (i : Invocation) (order : Nat) (cells : List Float) : Act Value := do
  i.calls.setMember i.self "elements" (← newArray ⟨[order, order], cells⟩)
  return i.self

/-- What an operation does. -/
def run (op : MatrixOperation) (i : Invocation) : Act Value := do
  let c ← classOf i.self
  let kind ← kindOf c
  let order := kind.order
  match op with
  | .make =>
    let _ ← store i order (Matrix.identity order)
    return .null
  | .fromArray =>
    let name := ((← get).info c).name
    let cells ← ofExcept (kind.ofElements name (← see (i.arg "values")))
    let m ← i.calls.call i.self [] []
    i.calls.setMember m "elements" (← newArray ⟨[order, order], Matrix.transpose order cells⟩)
    return m
  | .toArray =>
    newList ((Matrix.transpose order (← elementsOf i.calls i.self order)).map .float)
  | .identity => store i order (Matrix.identity order)
  | .multiply =>
    let a ← elementsOf i.calls i.self order
    let b ← elementsOf i.calls (i.arg "other") order
    store i order (Matrix.multiply order a b)
  | .determinant => return .float (Matrix.determinant order (← elementsOf i.calls i.self order))
  | .compose =>
    let m ← i.calls.call i.self [] []
    let turn ← turnOf i.calls (i.arg "rotation")
    let scale ← listOf i.calls (i.arg "scale")
    if scale.length != 3 then
      fail (.basic .value "operands could not be broadcast together")
    let position ← listOf i.calls (i.arg "position")
    if position.length != 3 then
      fail (.basic .value "could not broadcast input array")
    i.calls.setMember m "elements" (← newArray ⟨[4, 4], Matrix.compose turn scale position⟩)
    return m
  | .translation => newVector3 (Matrix.translation (← elementsOf i.calls i.self 4))

end MatrixOperation

/-! ## Colours -/

namespace ColourOperation

/-- The channels of a colour. -/
def channels (i : Invocation) : Act (List Float) := do
  match ← arrayOf? (← i.calls.member i.self "rgb") with
  | some a => return a.cells
  | none => fail (.basic .type "'object' is not subscriptable")

/-- Writes the channels of a colour in place. -/
def store (i : Invocation) (parts : List Float) : Act Unit := do
  match ← i.calls.member i.self "rgb" with
  | .object p => change p ({ · with body := .array ⟨[3], parts⟩ })
  | _ => fail (.basic .type "'object' does not support item assignment")

/-- The number of a colour. -/
def number (i : Invocation) : Act Nat := do
  match Datum.colourCode? (← channels i) with
  | some n => return n
  | none => fail .nanInt

/-- What an operation does. -/
def run (op : ColourOperation) (i : Invocation) : Act Value := do
  match op with
  | .make =>
    i.calls.setMember i.self "rgb" (← newArray ⟨[3], [1, 1, 1]⟩)
    if !i.args.rest.isEmpty then
      let _ ← i.calls.send i.self "set" i.args.rest
    return .null
  | .set =>
    store i (← ofExcept (Colour.ofData (← i.args.rest.mapM see)))
    return i.self
  | .channel index => return .float ((← channels i).getD index 0)
  | .code => return .int (← number i)
  | .digits => return .text (Datum.colourDigits (← number i))
  | .toArray => newList ((← channels i).map .float)

end ColourOperation

end SceneBridge
