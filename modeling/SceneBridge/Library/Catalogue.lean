import SceneBridge.Library.Elements
import SceneBridge.Library.Numeric
import SceneBridge.Library.Scene
import SceneBridge.Library.Tables

/-!
# The classes of the library

Every class of the library with its members, the classes that scripts can name, and
the numeric values that they hold.
-/

namespace SceneBridge

namespace LibraryClass

/-- What the library knows of a class. -/
def info : LibraryClass → ClassInfo
  | list => .named "list" "" [list]
  | record => .named "dict" "" [record]
  | view => .named "mappingproxy" "" [view]
  | array => .named "numpy.ndarray" "" [array]
  | bundle => .named "types.SimpleNamespace" "types" [bundle]
  | product => .named "Record" "" [product]
  | components => Library.components
  | vector => Library.vector
  | vector2 => Library.vector2
  | vector3 => Library.vector3
  | vector4 => Library.vector4
  | euler => Library.euler
  | quaternion => Library.quaternion
  | matrix => Library.matrix
  | matrix3 => Library.matrix3
  | matrix4 => Library.matrix4
  | color => Library.color
  | sceneEvent => Library.sceneEvent
  | dispatcher => Library.dispatcher
  | node => Library.node
  | group => Library.group
  | scene => Library.scene
  | mesh => Library.mesh
  | camera => Library.camera
  | perspective => Library.perspective
  | orthographic => Library.orthographic
  | light => Library.light
  | ambient => Library.ambient
  | directional => Library.directional
  | point => Library.point
  | spot => Library.spot
  | geometry => Library.geometry
  | box => Library.box
  | plane => Library.plane
  | sphere => Library.sphere
  | cylinder => Library.cylinder
  | material => Library.material
  | basic => Library.basic
  | standard => Library.standard
  | phong => Library.phong
  | registry => Library.registry
  | constructorTable => Library.constructorTable
  | constructor => Library.constructor
  | converter => Library.converter
  | cache => Library.cache
  | metadata => Library.metadata
  | propertyInfo => Library.propertyInfo
  | methodInfo => Library.methodInfo
  | computedInfo => Library.computedInfo
  | eventInfo => Library.eventInfo
  | staticInfo => Library.staticInfo
  | factory => Library.factory
  | definition => Library.definition
  | binding => Library.binding
  | elementEvent => Library.elementEvent
  | element => Library.element
  | recorder => Library.recorder
  | adapter => Library.adapter
  | component => Library.component

/-- The classes that a script can name. -/
def nameable : List LibraryClass := [
  vector2, vector3, vector4, euler, quaternion, matrix3, matrix4, color,
  sceneEvent, dispatcher, node, group, scene, mesh, camera, perspective, orthographic,
  light, ambient, directional, point, spot,
  geometry, box, plane, sphere, cylinder, material, basic, standard, phong,
  registry, constructorTable, converter, cache, factory, element, elementEvent, recorder]

/-- The classes that are defined as components by default, in this order. -/
def defaultTargets : List LibraryClass := [
  node, group, scene, mesh, perspective, orthographic, ambient, directional, point, spot,
  box, sphere, plane, cylinder, basic, standard, phong]

/-- The kind of numeric value that a class holds. -/
def valueKind? : LibraryClass → Option ValueKind
  | vector2 => some .vector2
  | vector3 => some .vector3
  | vector4 => some .vector4
  | euler => some .euler
  | quaternion => some .quaternion
  | matrix3 => some .matrix3
  | matrix4 => some .matrix4
  | color => some .color
  | _ => none

/-- The class of a kind of numeric value. -/
def ofValueKind : ValueKind → LibraryClass
  | .vector2 => vector2
  | .vector3 => vector3
  | .vector4 => vector4
  | .euler => euler
  | .quaternion => quaternion
  | .matrix3 => matrix3
  | .matrix4 => matrix4
  | .color => color

end LibraryClass

/-- The names that adapters use themselves. -/
def reservedNames : List String :=
  ((Library.adapter.members ++ Library.element.members).map (·.1)).eraseDups

end SceneBridge
