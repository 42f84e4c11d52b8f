import SceneBridge.Object.Callables

/-!
# Reports

What a step has to say about an object: its metadata, the definition of its adapter, or
its state at the moment.
-/

namespace SceneBridge

namespace World

/-- Some named values as data. -/
def seen (w : World) (es : List (String × Value)) : List (String × Datum) :=
  es.map fun (k, v) => (k, w.see depthLimit v)

/-- Metadata as it is seen. -/
def seenMetadata (w : World) (md : Metadata Value) : Metadata Datum where
  properties := md.properties
  methods := md.methods
  computed := md.computed
  events := md.events
  statics := md.statics.map fun (k, i) =>
    (k, ⟨i.name, i.type, w.see depthLimit i.value, i.description⟩)

/-- A definition as it is seen. -/
def seenDefinition (w : World) (d : AdapterDefinition Value) : AdapterDefinition Datum where
  className := d.className
  metadata := w.seenMetadata d.metadata
  attributes := d.attributes
  methods := d.methods
  statics := w.seen d.statics
  eventPrefix := d.eventPrefix
  shadowed := d.shadowed

/-- The attributes of an object that are not private. -/
def publicAttributes (w : World) (place : Nat) : List (String × Datum) :=
  w.seen ((w.entity place).attributes.filter fun (k, _) => !isPrivate k)

/-- The state of the element that a value is, if it is one. -/
def status? (w : World) (v : Value) : Option Status :=
  match v with
  | .object p =>
    match (w.entity p).body with
    | .element s _ => some ⟨none, s.isPending, s.isConnected⟩
    | .adapter s a _ => some ⟨some a.phase, s.isPending, s.isConnected⟩
    | _ => none
  | _ => none

end World

namespace Act

/-- The values of some properties of an element. -/
def propertyValues (calls : Calls) (place : Nat) (names : List String) :
    Act (List (String × Datum)) :=
  names.mapM fun name => do
    return (name, ← see (← calls.send (.object place) "get_property" [.text name]))

/-- The texts of the attributes with the names of some properties. -/
def attributeTexts (s : ElementState Value Value) (names : List String) :
    List (String × String) :=
  names.filterMap fun name => (s.attributes.lookup (Text.smallText name)).map (name, ·)

/-- What can be told about the state of a value. -/
def stateReport (calls : Calls) (v : Value) : Act Report := do
  match v with
  | .object p =>
    match (← entity p).body with
    | .adapter s a d =>
      let computed : List String := match (← entity d).body with
        | .definition _ d _ => d.metadata.computed.map Prod.fst
        | _ => []
      let declared := s.declared.map Prod.fst
      let values ← propertyValues calls p (declared.filter (!computed.contains ·))
      let w ← get
      let target := a.target.map fun
        | .object t => w.publicAttributes t
        | _ => []
      return .adapter a.phase s.isPending s.hasUpdated s.isConnected values
        (attributeTexts s declared) target
    | .element s _ =>
      let values ← propertyValues calls p (s.declared.map (·.1))
      return .element s.isPending s.hasUpdated s.isConnected values
    | _ => return .attributes ((← get).publicAttributes p)
  | _ => return .attributes []

/-- The definition or the metadata that a value is or leads to. -/
def descriptionReport (calls : Calls) (v : Value) : Act Report := do
  let w ← get
  match ← body v with
  | .metadata c md => return .metadata (w.info c).name (w.seenMetadata md)
  | .definition _ d _ => return .definition (w.seenDefinition d)
  | .adapter _ _ d =>
    match (w.entity d).body with
    | .definition _ d _ => return .definition (w.seenDefinition d)
    | _ => fail (.basic .type "not described")
  | _ =>
    match ← body (← calls.member v "definition") with
    | .definition _ d _ => return .definition (w.seenDefinition d)
    | _ => fail (.basic .type "not described")

end Act

end SceneBridge
