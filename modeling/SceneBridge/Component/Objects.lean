import SceneBridge.Adapter.Objects
import SceneBridge.Component.Table

/-!
# Components as objects

Tags for classes: what a component is defined from, and how an element is made by tag.
-/

namespace SceneBridge.Act

/-- How components are seen, and made by a factory. -/
def componentKind (calls : Calls) (factory : Value) : ComponentKind Act Value Value Value where
  target component := do calls.member (← calls.member component "definition") "target"
  className c := do plain (← calls.member c "__name__")
  tag component := do plain (← calls.member component "tag")
  definition component := calls.member component "definition"
  build c := do
    let own ← truth factory
    calls.send (if own then factory else .object Place.factory) "build" [c]
  make tag d := do newPlain .component [("tag", ← ofDatum tag), ("definition", d)]

/-- What the tags start with of classes for which none is given. -/
def tagPrefix : Act String := do
  return (← get).settings.tagPrefix

/-- The tag of a class where none is given. -/
def defaultTag (calls : Calls) (c : Value) : Act Value := do
  return .text (← (componentKind calls .null).defaultTag tagPrefix c)

/-- Defines a component for a class, under its own tag if none is given. -/
def defineComponent (calls : Calls) (c tag factory : Value) : Act Value := do
  let tag? ← if tag.isNull then pure none else some <$> see tag
  (componentKind calls factory).defineAs components tagPrefix tag? c

/-- Defines components for the usual classes, and returns their tags. -/
def defineDefaults (calls : Calls) : Act Value := do
  newList (← LibraryClass.defaultTargets.mapM fun l => do
    let component ← defineComponent calls (.classRef (.library l)) .null .null
    calls.member component "tag")

/-- The component of a tag. -/
def componentOf (tag : Value) : Act Value := do
  ComponentKind.get components (← see tag)

/-- The tags of all components in alphabetical order. -/
def componentTags (calls : Calls) : Act Value := do
  newList ((← (componentKind calls .null).tags components).map .text)

/-- Makes an element by tag, with attributes. -/
def createElement (calls : Calls) (tag : Value) (attributes : List (String × Value)) :
    Act Value := do
  let create (d : Value) : Act Value := do
    calls.call (← calls.member d "create") [] attributes
  (componentKind calls .null).element components create (← see tag)

end SceneBridge.Act
