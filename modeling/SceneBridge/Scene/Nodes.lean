import SceneBridge.Datum.Arithmetic
import SceneBridge.Scene.Numeric

/-!
# Nodes as objects

Nodes with their links, their place in space, and what kinds of nodes add to that:
scenes, meshes and lights.
-/

namespace SceneBridge

namespace Act

/-- The graph of all nodes. Changes are announced as events of the child. -/
def graph (calls : Calls) : Graph Act Value where
  links p := return (← entity p).links
  setLinks p l := change p ({ · with links := l })
  announce node linkChange parent := do
    let emit ← calls.member (.object node) "emit"
    discard (calls.call emit [.text linkChange.name] [("parent", .object parent)])
  detach parent children := calls.send (.object parent) "remove" (children.map .object)

/-- The place of the object that a value is. -/
def place? : Value → Option Nat
  | .object p => some p
  | _ => none

/-- The node that a value is. -/
def nodeOf (v : Value) : Act Nat := do
  match v with
  | .object p =>
    if ← isA v .node then return p
    match (← entity p).body with
    | .adapter .. => fail (.privateName "_parent")
    | _ => fail (.noAttribute (← typeName v) "_parent")
  | v => fail (.noAttribute (← typeName v) "_parent")

/-- How many levels of nodes are followed. -/
def nodeDepth : Nat := 1000

/-- More children than a node can have. -/
def nodeWidth : Nat := Nat.pow 2 62

/-- Every node from a node on, parents first. -/
def nodesBelow (place : Nat) : Act (List Nat) := do
  let w ← get
  match nodesFrom (fun p => (w.entity p).links.children) nodeDepth place with
  | some nodes => return nodes
  | none => fail .tooDeep

end Act

open Act

namespace NodeOperation

/-! ## Names -/

/-- The node, if its name is the given one. -/
def ifNamed (calls : Calls) (name : Value) (node : Nat) : Act (Option Value) := do
  match ← equal? (← calls.member (.object node) "name") name with
  | some true => return some (.object node)
  | some false => return none
  | none => fail .ambiguousTruth

/-! ## Space -/

/-- The names of the axes. -/
def axisName (axis : Nat) : String :=
  ["x", "y", "z"].getD axis "x"

/-- The direction of an axis. -/
def axisDirection (axis : Nat) : List Float :=
  (List.range 3).map fun i => if i == axis then 1 else 0

/-- A vector made of the items of a value. -/
def vectorOf (calls : Calls) (v : Value) : Act Value := do
  calls.make .vector3 (← items v)

/-- Moves the node along a direction of its own. -/
def moveAlong (i : Invocation) (axis distance : Value) : Act Value := do
  let v ← vectorOf i.calls axis
  let v ← i.calls.send v "apply_euler" [← i.calls.member i.self "rotation"]
  let v ← i.calls.send v "multiply_scalar" [distance]
  discard (i.calls.send (← i.calls.member i.self "position") "add" [v])
  return i.self

/-- Turns the node about an axis. -/
def turn (i : Invocation) (axis : Nat) : Act Value := do
  let rotation ← i.calls.member i.self "rotation"
  let old ← i.calls.member rotation (axisName axis)
  let angle ← i.float "angle"
  let sum ← ofExcept (Datum.plus (← see old) (.float angle))
  i.calls.setMember rotation (axisName axis) ((ofPlain? sum).getD .null)
  return i.self

/-- The transformation of the node. -/
def transformation (i : Invocation) : Act Value := do
  let position ← i.calls.member i.self "position"
  let rotation ← i.calls.member i.self "rotation"
  let scale ← i.calls.member i.self "scale"
  i.calls.send (.classRef (.library .matrix4)) "compose" [position, rotation, scale]

/-- Raises an event without data. -/
def announce (i : Invocation) (event : String) : Act Value := do
  discard (i.calls.send i.self "emit" [.text event])
  return .null

/-- The transformed vertices of a mesh. -/
def transformedVertices (i : Invocation) : Act Value := do
  let geometry ← i.calls.member i.self "geometry"
  let positions ← i.calls.member geometry "positions"
  match ← arrayOf? positions with
  | none => fail (.noAttribute (← typeName positions) "size")
  | some a =>
    if a.cells.isEmpty then newArray a
    else
      let cells ← elementsOf i.calls (← i.calls.member i.self "matrix_world") 4
      let points := Matrix.inRows 3 (a.cells.length / 3) a.cells
      newArray ⟨[points.length, 3],
        points.flatMap fun p => (Matrix.apply 4 cells (p ++ [1])).take 3⟩

/-! ## Operations -/

/-- What an operation does. -/
def run (op : NodeOperation) (i : Invocation) : Act Value := do
  let calls := i.calls
  match op with
  | .make =>
    i.makeBase []
    change i.place ({ · with links := .none })
    let up ← calls.member (.classRef (.library .node)) "DEFAULT_UP"
    calls.setMember i.self "name" (.text "")
    calls.setMember i.self "position" (← calls.make .vector3 [])
    calls.setMember i.self "rotation" (← calls.make .euler [])
    calls.setMember i.self "scale" (← calls.make .vector3 [.int 1, .int 1, .int 1])
    calls.setMember i.self "up" (← vectorOf calls up)
    calls.setMember i.self "visible" (.bool true)
    calls.setMember i.self "matrix_auto_update"
      (← calls.member (.classRef (.library .node)) "DEFAULT_MATRIX_AUTO_UPDATE")
    calls.setMember i.self "render_order" (.int 0)
    calls.setMember i.self "user_data" (← newRecord [])
    return .null
  | .parent => return (← entity i.place).links.parent.elim .null .object
  | .children => return .tuple ((← entity i.place).links.children.map .object)
  | .add =>
    (graph calls).add i.place (i.args.rest.map nodeOf)
    return i.self
  | .remove =>
    (graph calls).remove i.place (i.args.rest.filterMap place?)
    return i.self
  | .removeFromParent =>
    (graph calls).leave i.place
    return i.self
  | .clear => (graph calls).clear i.place
  | .traverse =>
    let visit (n : Nat) : Act Unit := discard (calls.call (i.arg "callback") [.object n] [])
    (graph calls).traverse visit nodeWidth nodeDepth i.place
    return .null
  | .nodes => newList ((← nodesBelow i.place).map .object)
  | .find =>
    let found ← (graph calls).search (ifNamed calls (i.arg "name")) nodeWidth nodeDepth i.place
    return found.getD .null
  | .translateOnAxis => moveAlong i (i.arg "axis") (i.arg "distance")
  | .translate axis =>
    calls.send i.self "translate_on_axis"
      [← calls.make .vector3 ((axisDirection axis).map .float), i.arg "distance"]
  | .rotate axis => turn i axis
  | .matrix => transformation i
  | .worldMatrix =>
    (graph calls).underParent (calls.member i.self "matrix")
      (fun parent => calls.member (.object parent) "matrix_world")
      (fun outer own => calls.send outer "multiply" [own]) i.place
  | .direction =>
    let cells ← elementsOf calls (← calls.member i.self "matrix_world") 4
    let v ← newVector3 [cells.getD 2 0, cells.getD 6 0, cells.getD 10 0]
    calls.send v "normalize" []
  | .worldPosition => calls.send (← calls.member i.self "matrix_world") "translation" []
  | .toWorld =>
    let v ← vectorOf calls (i.arg "vector")
    calls.send v "apply_matrix4" [← calls.member i.self "matrix_world"]
  | .makeScene =>
    i.makeBase []
    calls.setMember i.self "background" .null
    calls.setMember i.self "background_intensity" (.float 1)
    let white ← calls.make .color [.int 0xFFFFFF]
    calls.setMember i.self "fog"
      (← newRecord [("color", white), ("near", .float 1), ("far", .float 1000)])
    return .null
  | .makeMesh =>
    i.makeBase []
    let geometry ← if (i.arg "geometry").isNull then calls.make .box [] else pure (i.arg "geometry")
    calls.setMember i.self "geometry" geometry
    let material ← if (i.arg "material").isNull then calls.make .basic [] else pure (i.arg "material")
    calls.setMember i.self "material" material
    calls.setMember i.self "cast_shadow" (.bool false)
    calls.setMember i.self "receive_shadow" (.bool false)
    return .null
  | .worldVertices => transformedVertices i
  | .makeLight =>
    i.makeBase []
    calls.setMember i.self "color" (← calls.make .color [i.arg "color"])
    calls.setMember i.self "intensity" (.float (← i.float "intensity"))
    return .null
  | .disposeLight => announce i "dispose"
  | .makeDirectional =>
    i.makeBase [i.arg "color", i.arg "intensity"]
    discard (calls.send (← calls.member i.self "position") "set" [.int 0, .int 1, .int 0])
    calls.setMember i.self "cast_shadow" (.bool false)
    return .null
  | .makePoint =>
    i.makeBase [i.arg "color", i.arg "intensity"]
    calls.setMember i.self "distance" (.float (← i.float "distance"))
    calls.setMember i.self "decay" (.float (← i.float "decay"))
    return .null
  | .makeSpot =>
    i.makeBase [i.arg "color", i.arg "intensity", i.arg "distance", i.arg "decay"]
    calls.setMember i.self "angle" (.float (← i.float "angle"))
    calls.setMember i.self "penumbra" (.float (← i.float "penumbra"))
    return .null

end NodeOperation

end SceneBridge
