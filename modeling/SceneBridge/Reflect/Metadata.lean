import SceneBridge.TypeExpr.Basic

/-!
# Metadata

What is known of the members of a class: properties, methods, computed properties,
events and static members, each kind by name in the order in which it was found.
-/

namespace SceneBridge

structure PropertyInfo where
  name : String
  type : TypeExpr
  description : String
deriving Inhabited

structure MethodInfo where
  name : String
  paramNames : List String
  paramTypes : List TypeExpr
  returns : TypeExpr
deriving Inhabited

structure ComputedInfo where
  name : String
  hasGetter : Bool
  hasSetter : Bool
  type : TypeExpr
deriving Inhabited

structure EventInfo where
  name : String
  type : TypeExpr
deriving Inhabited

structure StaticInfo (V : Type) where
  name : String
  type : String
  value : V
  description : String
deriving Inhabited

/-- The metadata of a class. -/
structure Metadata (V : Type) where
  properties : List (String × PropertyInfo)
  methods : List (String × MethodInfo)
  computed : List (String × ComputedInfo)
  events : List (String × EventInfo)
  statics : List (String × StaticInfo V)
deriving Inhabited

namespace Metadata

/-- Nothing is known. -/
def empty {V : Type} : Metadata V := ⟨[], [], [], [], []⟩

/-- The written form of the metadata of the named class: how many members of each kind there are. -/
def written {V : Type} (md : Metadata V) (className : String) : String :=
  "ClassMetadata(" ++ className ++
    ": properties=" ++ toString md.properties.length ++
    ", methods=" ++ toString md.methods.length ++
    ", computed=" ++ toString md.computed.length ++
    ", events=" ++ toString md.events.length ++
    ", statics=" ++ toString md.statics.length ++ ")"

end Metadata

end SceneBridge
