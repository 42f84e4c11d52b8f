import SceneBridge.Entries
import SceneBridge.Reflect.Metadata

/-!
# Adapter definitions

What an adapter for a class offers, decided from the metadata of the class: which
properties are attributes, which methods are forwarded, and which names are left out
because adapters use them themselves.
-/

namespace SceneBridge

/-- How a method is forwarded. -/
structure MethodBinding where
  name : String
  /-- Where the target returns itself, the adapter returns itself. -/
  returnsOwner : Bool
  info : MethodInfo
deriving Inhabited

/-- The definition of the adapters for a class. -/
structure AdapterDefinition (V : Type) where
  className : String
  metadata : Metadata V
  attributes : List String
  methods : List (String × MethodBinding)
  statics : List (String × V)
  eventPrefix : String
  /-- Members that adapters hide, in alphabetical order. -/
  shadowed : List String
deriving Inhabited

namespace AdapterDefinition

/-- The names of types that no object of its own has. -/
def primitiveReturns : List String :=
  ["number", "string", "boolean", "void", "undefined", "null", "None", "int", "float", "bool", "str"]

/-- Can a result of the type be the target itself? -/
def canReturnOwner : TypeExpr → Bool
  | .scalar name => !primitiveReturns.contains name
  | _ => true

variable {V : Type}

/-- The definition for a class with the given metadata. Members with a name in `reserved`
are shadowed. -/
def ofMetadata (reserved : List String) (eventPrefix className : String) (md : Metadata V) :
    AdapterDefinition V where
  className
  metadata := md
  attributes := (md.properties.map (·.1) ++ md.computed.map (·.1)).filter (!reserved.contains ·)
  methods := (md.methods.filter fun (k, _) => !reserved.contains k).map fun (k, info) =>
    (k, ⟨k, canReturnOwner info.returns, info⟩)
  statics := md.statics.map fun (k, info) => (k, info.value)
  eventPrefix
  shadowed := ((md.properties.map (·.1) ++ md.computed.map (·.1) ++ md.methods.map (·.1)).filter
    (reserved.contains ·)).mergeSort

/-- What the adapters can do, in alphabetical order. -/
def capabilities (d : AdapterDefinition V) : List String :=
  [("computed", !d.metadata.computed.isEmpty), ("events", !d.metadata.events.isEmpty),
    ("methods", !d.methods.isEmpty), ("properties", !d.metadata.properties.isEmpty),
    ("statics", !d.statics.isEmpty)].filterMap fun (name, has) => if has then some name else none

/-- Is the name an attribute that the target computes? -/
def isComputed (d : AdapterDefinition V) (name : String) : Bool :=
  Entries.has d.metadata.computed name

/-- Is the name an attribute? -/
def isAttribute (d : AdapterDefinition V) (name : String) : Bool :=
  d.attributes.contains name

end AdapterDefinition

end SceneBridge
