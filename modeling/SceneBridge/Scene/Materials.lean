import SceneBridge.Scene.Nodes

/-!
# Materials as objects

A material has a version, which goes up whenever the material is marked as changed.
-/

namespace SceneBridge.MaterialOperation

open Act

/-- Sets the attributes of a kind of material; colours are given by number. -/
def setUp (i : Invocation) (colours : List (String × Int)) (others : List (String × Value)) :
    Act Value := do
  i.makeBase []
  colours.forM fun (name, code) => do
    i.calls.setMember i.self name (← i.calls.make .color [.int code])
  i.calls.setMembers i.self others
  return .null

/-- How often the material was marked as changed. -/
def versionOf (i : Invocation) : Act Int := do
  match ← attribute? i.place "_version" with
  | some (.int n) => return n
  | _ => return 0

/-- What an operation does. -/
def run (op : MaterialOperation) (i : Invocation) : Act Value := do
  match op with
  | .make =>
    i.makeBase []
    setAttribute i.place "_version" (.int 0)
    i.calls.setMembers i.self [("name", .text ""), ("opacity", .float 1),
      ("transparent", .bool false), ("visible", .bool true)]
    i.calls.setMember i.self "side"
      (← i.calls.member (.classRef (.library .material)) "FRONT_SIDE")
    i.calls.setMember i.self "depth_test" (.bool true)
    return .null
  | .version => return .int (← versionOf i)
  | .markChanged =>
    if ← truth (i.arg "value") then
      setAttribute i.place "_version" (.int ((← versionOf i) + 1))
    return .null
  | .dispose => NodeOperation.announce i "dispose"
  | .makeBasic => setUp i [("color", 0xFFFFFF)] [("wireframe", .bool false)]
  | .makeStandard =>
    setUp i [("color", 0xFFFFFF), ("emissive", 0)]
      [("roughness", .float 1), ("metalness", .float 0), ("wireframe", .bool false)]
  | .makePhong =>
    setUp i [("color", 0xFFFFFF), ("specular", 0x111111)]
      [("shininess", .float 30), ("flat_shading", .bool false)]

end SceneBridge.MaterialOperation
