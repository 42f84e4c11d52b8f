import SceneBridge.Scene.Nodes
import SceneBridge.Scene.Shape

/-!
# Cameras as objects

Cameras are nodes with a projection. The projection is computed from the attributes of
the camera whenever it is asked for; changing the field of view announces it.
-/

namespace SceneBridge.CameraOperation

open Act

/-- An attribute of the camera, as it is seen. -/
def seen (i : Invocation) (name : String) : Act Datum := do
  see (← i.calls.member i.self name)

/-- The double that a datum of arithmetic is. -/
def cell (d : Datum) : Except Fault Float := do
  (← d.operand).toFloat

/-- The cells of the perspective projection. The angle is in degrees. -/
def perspectiveCells (fov : Float) (zoom aspect near far : Datum) : Except Fault (List Float) := do
  let f := 1 / (fov * (Shape.pi / 180) / 2).tan
  let f := f * (← cell zoom)
  let x := f / (← cell aspect)
  let z ← (← far.plus near).dividedBy (← near.minus far)
  let w ← (← (← Datum.times (.float 2) far).times near).dividedBy (← near.minus far)
  return [x, 0, 0, 0, 0, f, 0, 0, 0, 0, ← cell z, ← cell w, 0, 0, -1, 0]

/-- The cells of the parallel projection. -/
def orthographicCells (left right top bottom near far zoom : Datum) :
    Except Fault (List Float) := do
  let w ← (← right.minus left).dividedBy zoom
  let h ← (← top.minus bottom).dividedBy zoom
  let d ← far.minus near
  let x ← Datum.dividedBy (.float 2) w
  let y ← Datum.dividedBy (.float 2) h
  let z ← Datum.dividedBy (.float (-2)) d
  let tx ← (← (← right.plus left).negate).dividedBy (← right.minus left)
  let ty ← (← (← top.plus bottom).negate).dividedBy (← top.minus bottom)
  let tz ← (← (← far.plus near).negate).dividedBy d
  return [← cell x, 0, 0, ← cell tx, 0, ← cell y, 0, ← cell ty, 0, 0, ← cell z, ← cell tz, 0, 0, 0, 1]

/-- The field of view. -/
def angle (i : Invocation) : Act Float := do
  match ← attribute? i.place "_fov" with
  | some v => ofExcept (← see v).toFloat
  | none => fail (.noAttribute (← typeName i.self) "_fov")

/-- Sets attributes to arguments of the same names, as doubles. -/
def setFloats (i : Invocation) (names : List String) : Act Unit :=
  names.forM fun name => do
    i.calls.setMember i.self name (.float (← i.float name))

/-- What an operation does. -/
def run (op : CameraOperation) (i : Invocation) : Act Value := do
  match op with
  | .make =>
    i.makeBase []
    i.calls.setMembers i.self [("near", .float 0.1), ("far", .float 2000), ("zoom", .float 1)]
    return .null
  | .blankProjection => i.calls.make .matrix4 []
  | .announceProjection =>
    let emit ← i.calls.member i.self "emit"
    let matrix ← i.calls.member i.self "projection_matrix"
    discard (i.calls.call emit [.text "projection"] [("matrix", matrix)])
    return .null
  | .makePerspective =>
    i.makeBase []
    setAttribute i.place "_fov" (.float (← i.float "fov"))
    setFloats i ["near", "far", "aspect"]
    return .null
  | .fov => return .float (← angle i)
  | .setFov =>
    setAttribute i.place "_fov" (.float (← i.float "value"))
    discard (i.calls.send i.self "update_projection_matrix" [])
    return .null
  | .perspective =>
    let fov ← angle i
    newMatrix4 (← ofExcept (perspectiveCells fov (← seen i "zoom") (← seen i "aspect")
      (← seen i "near") (← seen i "far")))
  | .makeOrthographic =>
    i.makeBase []
    setFloats i ["left", "right", "top", "bottom", "near", "far"]
    return .null
  | .orthographic =>
    newMatrix4 (← ofExcept (orthographicCells (← seen i "left") (← seen i "right") (← seen i "top")
      (← seen i "bottom") (← seen i "near") (← seen i "far") (← seen i "zoom")))

end SceneBridge.CameraOperation
