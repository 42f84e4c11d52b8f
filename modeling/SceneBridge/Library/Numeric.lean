import SceneBridge.Object.Class

/-!
# Classes of numeric values

Vectors, rotations, matrices and colours, with the members that they show.
-/

namespace SceneBridge.Library

open Param Member

/-- Where the classes are defined. -/
def numericHome : String := "scene.values"

/-- The readers and writers of named components. -/
def componentMembers (names : List String) : List (String × Member) :=
  names.mapIdx fun i n => (n, .property (.vector (.component i)) (.vector (.setComponent i)) none)

/-- What makes a value from any number of components. -/
def makeComponents : Routine :=
  ⟨[(rest "components").noted "float"], some (.text "None"), .operation (.vector .make), none⟩

/-- Anything that has components. -/
def components : ClassInfo :=
  { ClassInfo.named "_Components" numericHome [.components] with
    members := [
      ("to_array", ofOperation (.vector .toArray) [] "list[float]" none),
      ("set", ofOperation (.vector .set) [(rest "components").noted "float"] none none),
      ("copy", ofOperation (.vector .copy) [(needed "other").noted "'_Components'"] none none),
      ("clone", ofOperation (.vector .clone) [] none none)]
    init := some makeComponents }

/-- Anything that adds like a vector. -/
def vector : ClassInfo :=
  { ClassInfo.named "_Vector" numericHome [.vector, .components] with
    members := [
      ("add", ofOperation (.vector .add) [(needed "other").noted "'_Vector'"] none none),
      ("sub", ofOperation (.vector .sub) [(needed "other").noted "'_Vector'"] none none),
      ("multiply_scalar",
        ofOperation (.vector .multiplyScalar) [(needed "s").noted "float"] none none),
      ("dot", ofOperation (.vector .dot) [(needed "other").noted "'_Vector'"] "float" none),
      ("length", ofOperation (.vector .length) [] "float" none),
      ("normalize", ofOperation (.vector .normalize) [] none none)] }

def vector2 : ClassInfo :=
  { ClassInfo.named "Vector2" numericHome [.vector2, .vector, .components] with
    members := componentMembers ["x", "y"] }

def vector3 : ClassInfo :=
  { ClassInfo.named "Vector3" numericHome [.vector3, .vector, .components] with
    members := componentMembers ["x", "y", "z"] ++ [
      ("cross",
        ofOperation (.vector .cross) [(needed "other").noted "'Vector3'"] "'Vector3'" none),
      ("apply_euler",
        ofOperation (.vector .applyEuler) [(needed "euler").noted "'Euler'"] "'Vector3'"
          "X→Y→Z の順に各軸回転を適用する（右手系、ラジアン）。"),
      ("apply_matrix4",
        ofOperation (.vector .applyMatrix) [(needed "m").noted "'Matrix4'"] "'Vector3'" none)] }

def vector4 : ClassInfo :=
  { ClassInfo.named "Vector4" numericHome [.vector4, .vector, .components] with
    members := componentMembers ["x", "y", "z", "w"] }

/-- Rotations about the three axes. -/
def euler : ClassInfo :=
  { ClassInfo.named "Euler" numericHome [.euler, .components] with
    doc := some "オイラー角（ラジアン）。適用順は X→Y→Z。"
    members := componentMembers ["x", "y", "z"] ++ [
      ("rotation_matrix", ofOperation (.vector .rotationMatrix) [] "np.ndarray"
        "3x3 回転行列 `Rz @ Ry @ Rx` を返す。")] }

def quaternion : ClassInfo :=
  { ClassInfo.named "Quaternion" numericHome [.quaternion, .components] with
    members := componentMembers ["x", "y", "z", "w"] ++ [
      ("from_euler", ofClassOperation (.vector .fromEuler) [(needed "euler").noted "Euler"])]
    init := some ⟨[(optional "x" (.float 0)).noted "float", (optional "y" (.float 0)).noted "float",
      (optional "z" (.float 0)).noted "float", (optional "w" (.float 1)).noted "float"],
      some (.text "None"), .operation (.vector .makeQuaternion), none⟩ }

/-- Any square matrix. -/
def matrix : ClassInfo :=
  { ClassInfo.named "_Matrix" numericHome [.matrix] with
    members := [
      ("from_array",
        ofClassOperation (.matrix .fromArray) [(needed "values").noted "Sequence[float]"]),
      ("to_array", ofOperation (.matrix .toArray) [] "list[float]" none),
      ("identity", ofOperation (.matrix .identity) [] none none),
      ("multiply", ofOperation (.matrix .multiply) [(needed "other").noted "'_Matrix'"] none none),
      ("determinant", ofOperation (.matrix .determinant) [] "float" none)]
    init := some ⟨[], some (.text "None"), .operation (.matrix .make), none⟩ }

def matrix3 : ClassInfo :=
  ClassInfo.named "Matrix3" numericHome [.matrix3, .matrix]

def matrix4 : ClassInfo :=
  { ClassInfo.named "Matrix4" numericHome [.matrix4, .matrix] with
    members := [
      ("compose", ofClassOperation (.matrix .compose) [(needed "position").noted "Vector3",
        (needed "rotation").noted "Euler", (needed "scale").noted "Vector3"]),
      ("translation", ofOperation (.matrix .translation) [] "Vector3" none)] }

def color : ClassInfo :=
  { ClassInfo.named "Color" numericHome [.color] with
    doc := some "RGB(0–1) の色。"
    members := [
      ("set", ofOperation (.colour .set) [(rest "args").noted "Any"] "'Color'" none),
      ("r", reader (.colour (.channel 0)) none),
      ("g", reader (.colour (.channel 1)) none),
      ("b", reader (.colour (.channel 2)) none),
      ("get_hex", ofOperation (.colour .code) [] "int" none),
      ("get_hex_string", ofOperation (.colour .digits) [] "str" none),
      ("to_array", ofOperation (.colour .toArray) [] "list[float]" none)]
    init := some ⟨[(rest "args").noted "Any"], some (.text "None"), .operation (.colour .make),
      none⟩ }

end SceneBridge.Library
