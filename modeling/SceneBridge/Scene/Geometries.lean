import SceneBridge.Scene.Nodes
import SceneBridge.Scene.Shape

/-!
# Geometries as objects

A geometry keeps the parameters that it is built from as a record, and computes its
positions from them whenever they are asked for.
-/

namespace SceneBridge.GeometryOperation

open Act

/-! ## Parameters -/

/-- A parameter of the geometry, as it is seen. -/
def parameter (parameters : Value) (name : String) : Act Datum := do
  see (← item parameters (.text name))

/-- A number of steps: the integer part of a parameter, but not less than `least`. -/
def steps (d : Datum) (least : Nat) : Except Fault Nat := do
  return max least (← d.toInt).toNat

/-- The double that a parameter is in arithmetic. -/
def size (d : Datum) : Except Fault Float := do
  (← d.operand).toFloat

/-- The double that a factor of many numbers is. -/
def factor (d : Datum) : Except Fault Float :=
  match d with
  | .list _ | .tuple _ => .error (.basic .value "operands could not be broadcast together")
  | d => size d

/-! ## Positions -/

/-- The positions of a box. -/
def boxPositions (parameters : Value) : Act (List Float) := do
  let width ← parameter parameters "width"
  let height ← parameter parameters "height"
  let depth ← parameter parameters "depth"
  match ← ofExcept (Datum.toArray (.list [width, height, depth])) with
  | ⟨[3], [w, h, d]⟩ => return Shape.box w h d
  | _ => fail (.basic .value "setting an array element with a sequence.")

/-- The positions of a plane. -/
def planePositions (parameters : Value) : Act (List Float) := do
  let columns ← ofExcept (steps (← parameter parameters "width_segments") 1)
  let rows ← ofExcept (steps (← parameter parameters "height_segments") 1)
  let width ← ofExcept (size (← parameter parameters "width"))
  let height ← ofExcept (size (← parameter parameters "height"))
  return Shape.plane width height columns rows

/-- The positions of a sphere. -/
def spherePositions (parameters : Value) : Act (List Float) := do
  let columns ← ofExcept (steps (← parameter parameters "width_segments") 3)
  let rows ← ofExcept (steps (← parameter parameters "height_segments") 2)
  let radius ← ofExcept (size (← parameter parameters "radius"))
  return Shape.sphere radius columns rows

/-- The positions of a cylinder. -/
def cylinderPositions (parameters : Value) : Act (List Float) := do
  let n ← ofExcept (steps (← parameter parameters "radial_segments") 3)
  let height ← ofExcept (size (← parameter parameters "height"))
  let top ← parameter parameters "radius_top"
  let bottom ← parameter parameters "radius_bottom"
  return Shape.cylinder (← ofExcept (factor top)) (← ofExcept (factor bottom)) height n

/-- The positions of a geometry of a class. -/
def positionsOf (i : Invocation) : Act (List Float) := do
  let w ← get
  match w.nearestLibrary? (w.entity i.place).class_ with
  | some .box => boxPositions (← i.calls.member i.self "parameters")
  | some .plane => planePositions (← i.calls.member i.self "parameters")
  | some .sphere => spherePositions (← i.calls.member i.self "parameters")
  | some .cylinder => cylinderPositions (← i.calls.member i.self "parameters")
  | _ => return []

/-- The positions that the geometry shows. -/
def shown (i : Invocation) : Act NumArray := do
  let v ← i.calls.member i.self "positions"
  match ← arrayOf? v with
  | some a => return a
  | none => fail (.noAttribute (← typeName v) "shape")

/-! ## Operations -/

/-- Sets the parameters to arguments: doubles first, then integers. -/
def setParameters (i : Invocation) (floats counts : List String) : Act Value := do
  i.makeBase []
  let xs ← floats.mapM fun name => do
    return (name, Value.float (← i.float name))
  let ns ← counts.mapM fun name => do
    return (name, Value.int (← ofExcept (← see (i.arg name)).toInt))
  i.calls.setMember i.self "parameters" (← newRecord (xs ++ ns))
  return .null

/-- What an operation does. -/
def run (op : GeometryOperation) (i : Invocation) : Act Value := do
  match op with
  | .make =>
    i.makeBase []
    i.calls.setMember i.self "name" (.text "")
    i.calls.setMember i.self "parameters" (← newRecord [])
    return .null
  | .positions =>
    let cells ← positionsOf i
    newArray ⟨[cells.length / 3, 3], cells⟩
  | .count => return .int ((← shown i).shape.headD 0)
  | .bounds =>
    let (least, greatest) := (Shape.bounds (← shown i).cells).getD ([0, 0, 0], [0, 0, 0])
    newList [← newVector3 least, ← newVector3 greatest]
  | .dispose => NodeOperation.announce i "dispose"
  | .makeBox => setParameters i ["width", "height", "depth"] []
  | .makePlane => setParameters i ["width", "height"] ["width_segments", "height_segments"]
  | .makeSphere => setParameters i ["radius"] ["width_segments", "height_segments"]
  | .makeCylinder => setParameters i ["radius_top", "radius_bottom", "height"] ["radial_segments"]

end SceneBridge.GeometryOperation
