import SceneBridge.Adapter.Factory
import SceneBridge.Element.Objects
import SceneBridge.Reflect.Objects

/-!
# Adapters as objects

Definitions of adapters, the factories that build them, and what adapters do when they
are called on as objects.
-/

namespace SceneBridge

namespace Act

/-! ## Adapters at their places -/

/-- The adapter at a place. -/
def adapterAt (calls : Calls) (place : Nat) : Act (Adapter Act Value Value) := do
  let (definition, converter) ← match (← entity place).body with
    | .adapter _ _ d =>
      match (← entity d).body with
      | .definition _ definition converter => pure (definition, converter)
      | _ => fail (.noAttribute "TargetAdapter" "_definition")
    | _ => fail (.noAttribute (← typeName (.object place)) "_definition")
  return {
    definition
    element := elementAt calls place
    state := adapterOf place
    self := .object place
    member := calls.member
    peek := calls.peek
    setMember := calls.setMember
    convert := fun v t => calls.send converter "convert" [v, .type t]
    isNothing := Value.isNull
    same := Value.same
    entries? := recordEntries?
    newRecord := newRecord
    isOpenRecord := fun v => do
      return match ← body v with
        | .record _ => true
        | _ => false
    setEntry := fun v k x => setItem v (.text k) x
    isCallable := isCallable
    call := calls.call
    textValue := .text
    handler := fun event => .callable (.bridge place event)
    dispatch := fun type detail => do
      let e ← calls.call (.classRef (.library .elementEvent)) []
        [("type", .text type), ("detail", detail)]
      discard (calls.send (.object place) "dispatch_event" [e])
    disposeSelf := discard (calls.send (.object place) "dispose" []) }

/-- The class that the adapter at a place is for. -/
def targetClass (place : Nat) : Act ClassId := do
  match (← entity place).body with
  | .adapter _ _ d =>
    match (← entity d).body with
    | .definition c _ _ => return c
    | _ => return .library .adapter
  | _ => return .library .adapter

/-! ## What adapters add to attributes -/

/-- The member of an adapter that neither the adapter nor its class has: an attribute of
its target, or a static member. -/
def bridgedMember (calls : Calls) (place : Nat) (name : String) : Act Value := do
  if name.startsWith "_" then fail (.privateName name)
  let a ← adapterAt calls place
  let d := a.definition
  match d.metadata.computed.lookup name with
  | some info =>
    if d.isAttribute name then a.computed name info else other a name
  | none => other a name
where
  /-- A member that is not computed. -/
  other (a : Adapter Act Value Value) (name : String) : Act Value := do
    let d := a.definition
    if Entries.has d.metadata.properties name && d.isAttribute name then
      calls.send (.object place) "get_property" [.text name]
    else if Entries.has d.statics name then
      calls.member (.classRef (← targetClass place)) name
    else fail (.noMember (← typeName (.object place)) d.className name)

/-- Does writing an attribute of an adapter mean setting a property? -/
def isBridged (calls : Calls) (place : Nat) (name : String) : Act Bool := do
  if name.startsWith "_" then return false
  return (← adapterAt calls place).definition.isAttribute name

/-! ## What adapters are called for -/

/-- Calls a method of the target of an adapter. -/
def forwardCall (calls : Calls) (place : Nat) (name : String) (args : List Value)
    (named : List (String × Value)) : Act Value := do
  let a ← adapterAt calls place
  match a.definition.methods.lookup name with
  | some binding => a.forward binding args named
  | none => fail (.noMember (← typeName (.object place)) a.definition.className name)

/-- Dispatches an event of the target of an adapter. -/
def bridgeEvent (calls : Calls) (place : Nat) (event : String) (detail : Value) : Act Value := do
  (← adapterAt calls place).bridge event detail
  return .null

/-! ## Definitions -/

/-- A new definition for a class. -/
def newDefinition (c : ClassId) (metadata converter eventPrefix : Value) (md : Metadata Value) :
    Act Nat := do
  let d := AdapterDefinition.ofMetadata reservedNames (← plain eventPrefix) (← classInfo c).name md
  let capabilities ← newList (d.capabilities.map .text)
  let methods ← newView (← d.methods.mapM fun (k, b) => do
    let info ← methodInfo k
    return (k, ← newPlain .binding [("name", .text b.name),
      ("return_owner_on_self", .bool b.returnsOwner), ("descriptor", info)]))
  let statics ← newView d.statics
  keep { Entity.ofClass (.library .definition) (.definition c d converter) with
    attributes := [("target", .classRef c), ("metadata", metadata), ("capabilities", capabilities),
      ("attributes", .tuple (d.attributes.map .text)), ("methods", methods), ("statics", statics),
      ("event_prefix", eventPrefix), ("shadowed", .tuple (d.shadowed.map .text)),
      ("converter", converter)] }
where
  /-- What the metadata says about a method. -/
  methodInfo (name : String) : Act Value := do
    match metadata with
    | .object p =>
      match (← entity p).attributes.lookup "methods" with
      | some methods => item methods (.text name)
      | none => return .null
    | _ => return .null

end Act

open Act

namespace AdapterOperation

/-! ## Factories -/

/-- How a factory builds definitions. -/
def factoryOf (i : Invocation) (cache converter eventPrefix : Value) :
    DefinitionFactory Act Value Value Nat where
  known := definitionsOf i.place
  metadata v := do i.calls.send cache "metadata_for" [← key v]
  define _ metadata := do
    match ← body metadata with
    | .metadata c md =>
      let usual := (← get).settings.eventPrefix
      let eventPrefix := if eventPrefix.isNull then .text usual else eventPrefix
      newDefinition c metadata converter eventPrefix md
    | _ => fail (.noAttribute (← typeName metadata) "properties")

/-- The definition that a factory builds for a class. -/
def buildFor (i : Invocation) (v : Value) : Act Value := do
  match ← body i.self with
  | .factory cache converter eventPrefix _ =>
    return .object (← (factoryOf i cache converter eventPrefix).build v)
  | _ => fail (.noAttribute (← typeName i.self) "_definitions")

/-- The argument of a parameter, or the object at a place if there is none. -/
def argOr (i : Invocation) (name : String) (place : Nat) : Value :=
  if (i.arg name).isNull then .object place else i.arg name

/-! ## New adapters -/

/-- Makes an adapter of a definition: a new target, attributes with the values that it has,
and what forwards its methods. -/
def makeAdapter (i : Invocation) : Act Unit := do
  match i.arg "definition" with
  | .object d =>
    match (← entity d).body with
    | .definition c plan _ =>
      change i.place ({ · with body := .adapter .empty default d })
      let target ← i.calls.call (.classRef c) [] []
      (adapterOf i.place).set ⟨.constructed, [], some target⟩
      let state := elementOf i.place
      plan.attributes.forM fun name =>
        state.modify (·.declare name (some (Text.smallText name)))
      plan.metadata.properties.forM fun (name, _) => do
        if plan.isAttribute name then
          let v ← i.calls.peek target name
          state.modify (·.store name v)
      plan.methods.forM fun (name, _) =>
        setAttribute i.place name (.callable (.forwarder i.place name))
    | _ => fail (.noAttribute (← typeName (.object d)) "target")
  | v => fail (.noAttribute (← typeName v) "target")

/-- The definition that the object is. -/
def definitionOf (i : Invocation) : Act (ClassId × AdapterDefinition Value) := do
  match ← body i.self with
  | .definition c d _ => return (c, d)
  | _ => fail (.noAttribute (← typeName i.self) "target")

/-! ## Operations -/

/-- What an operation does. -/
def run (op : AdapterOperation) (i : Invocation) : Act Value := do
  match op with
  | .makeFactory =>
    let cache := argOr i "cache" Place.cache
    let converter := argOr i "converter" Place.converter
    change i.place ({ · with body := .factory cache converter (i.arg "event_prefix") [] })
    return .null
  | .build => buildFor i (i.arg "cls")
  | .definitionName => return .text (← definitionOf i).2.className
  | .has =>
    let (_, d) ← definitionOf i
    match ← key (i.arg "capability") with
    | .text s => return .bool (d.capabilities.contains s)
    | _ => return .bool false
  | .create =>
    newAdapter (fun d => i.calls.make .adapter [d])
      (fun adapter name v => discard (i.calls.send adapter "set_attribute" [.text name, v]))
      i.self i.args.named
  | .make =>
    makeAdapter i
    return .null
  | .definition =>
    match ← body i.self with
    | .adapter _ _ d => return .object d
    | _ => return .null
  | .target => return ((← (adapterOf i.place).get).target).getD .null
  | .state => return .text (← (adapterOf i.place).get).phase.name
  | .property => (← adapterAt i.calls i.place).property (← plain (i.arg "name"))
  | .setProperty =>
    (← adapterAt i.calls i.place).setProperty (← plain (i.arg "name")) (i.arg "value")
    return .null
  | .requestUpdate =>
    if !(i.arg "name").isNull then
      (← adapterAt i.calls i.place).requestUpdate (← plain (i.arg "name")) (i.arg "old_value")
    return .null
  | .update =>
    let a ← adapterAt i.calls i.place
    let names ← (← items (i.arg "changed")).mapM plain
    a.update names
    return .null
  | .connected =>
    (← adapterAt i.calls i.place).connected
    return .null
  | .disconnected =>
    (← adapterAt i.calls i.place).disconnected
    return .null
  | .dispose =>
    (← adapterAt i.calls i.place).dispose
    return .null

end AdapterOperation

end SceneBridge
