/-!
# Operations

The operations that the classes of the library bring with them, by the kind of object
that they work on.
-/

namespace SceneBridge

/-- Operations on vectors and rotations. -/
inductive VectorOperation where
  | make | makeQuaternion
  | toArray | set | copy | clone
  | component (index : Nat) | setComponent (index : Nat)
  | add | sub | multiplyScalar | dot | length | normalize
  | cross | applyEuler | applyMatrix
  | rotationMatrix | fromEuler
deriving Repr, Inhabited

/-- Operations on matrices. -/
inductive MatrixOperation where
  | make | fromArray | toArray | identity | multiply | determinant | compose | translation
deriving Repr, Inhabited

/-- Operations on colours. -/
inductive ColourOperation where
  | make | set | channel (index : Nat) | code | digits | toArray
deriving Repr, Inhabited

/-- Operations on sources of events. -/
inductive EventOperation where
  | makeEvent | make | on | off | has | emit
deriving Repr, Inhabited

/-- Operations on nodes. -/
inductive NodeOperation where
  | make | parent | children
  | add | remove | removeFromParent | clear
  | traverse | nodes | find
  | translateOnAxis | translate (axis : Nat) | rotate (axis : Nat)
  | matrix | worldMatrix | direction | worldPosition | toWorld
  | makeScene | makeMesh | worldVertices
  | makeLight | disposeLight | makeDirectional | makePoint | makeSpot
deriving Repr, Inhabited

/-- Operations on cameras. -/
inductive CameraOperation where
  | make | blankProjection | announceProjection
  | makePerspective | fov | setFov | perspective
  | makeOrthographic | orthographic
deriving Repr, Inhabited

/-- Operations on geometries. -/
inductive GeometryOperation where
  | make | positions | count | bounds | dispose
  | makeBox | makePlane | makeSphere | makeCylinder
deriving Repr, Inhabited

/-- Operations on materials. -/
inductive MaterialOperation where
  | make | version | markChanged | dispose
  | makeBasic | makeStandard | makePhong
deriving Repr, Inhabited

/-- Operations on registries. -/
inductive RegistryOperation where
  | make | add | register | get | lookup | keys | has | remove | clear | values | copy
deriving Repr, Inhabited

/-- Operations on constructors and their tables. -/
inductive ConstructorOperation where
  | makeTable | define | valueType | nameFor | remove | clear
  | accepts | construct | fromComponents | fromValue
  | makeConverter | converterRegistry | convert
deriving Repr, Inhabited

/-- Operations on metadata. -/
inductive ReflectionOperation where
  | makeCache | metadataFor | clear | kind | metadataName
deriving Repr, Inhabited

/-- Operations on elements. -/
inductive ElementOperation where
  | makeEvent | make
  | declare | declared
  | property | setProperty | requestUpdate
  | isPending | hasUpdated | performUpdate | flush | complete
  | hook
  | connected | disconnected | isConnected
  | setAttribute | attribute_ | hasAttribute | removeAttribute
  | addListener | removeListener | dispatch
  | subscribe | unsubscribe
  /-- Writes to the log which properties changed. -/
  | logHook (name : String)
deriving Repr, Inhabited

/-- Operations on adapters and what makes them. -/
inductive AdapterOperation where
  | makeFactory | build
  | definitionName | has | create
  | make | definition | target | state
  | property | setProperty | requestUpdate | update
  | connected | disconnected | dispose
deriving Repr, Inhabited

/-- An operation of the library. -/
inductive Operation where
  | vector (op : VectorOperation)
  | matrix (op : MatrixOperation)
  | colour (op : ColourOperation)
  | event (op : EventOperation)
  | node (op : NodeOperation)
  | camera (op : CameraOperation)
  | geometry (op : GeometryOperation)
  | material (op : MaterialOperation)
  | registry (op : RegistryOperation)
  | constructor (op : ConstructorOperation)
  | reflection (op : ReflectionOperation)
  | element (op : ElementOperation)
  | adapter (op : AdapterOperation)
deriving Repr, Inhabited

end SceneBridge
