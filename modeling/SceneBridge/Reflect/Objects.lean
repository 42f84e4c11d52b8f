import SceneBridge.Convert.Objects
import SceneBridge.Reflect.Extract

/-!
# Reflection on objects

The views of a class and of an instance that metadata is extracted from, and metadata
as an object of its own.
-/

namespace SceneBridge

open Text

/-! ## Views -/

/-- The documentation that a member has itself. -/
def Member.doc? : Member → Option String
  | .accessor _ _ doc => doc
  | .routine r => r.doc
  | .shared _ r => r.doc
  | .constant _ => none

/-- What a caller sees of a routine: the parameters that can be named, and the result. -/
def Routine.view (r : Routine) : RoutineView :=
  let shown := r.params.filter fun p =>
    (p.kind = .plain || p.kind = .named) && p.name != "self" && p.name != "cls"
  ⟨shown.map fun p => (p.name, p.hint), r.returns⟩

namespace World

/-- The documentation of a member of a class: its own, or that of the first member of its
name in the order of the class. -/
def docOf (w : World) (c : ClassId) (name : String) (m : Member) : Option String :=
  let inherited := (w.info c).order.findSome? fun base => do
    let (_, m) ← w.findMember? (w.info base).order name
    m.doc?
  ((m.doc? <|> inherited).map outdentText)

/-- What a caller sees of a callable. -/
def viewOf (w : World) : Callable → RoutineView
  | .method _ owner name | .routine owner name =>
    match (w.info owner).members.lookup name with
    | some (.routine r) | some (.shared _ r) => r.view
    | _ => ⟨[], none⟩
  | .attached _ params _ => Routine.view ⟨Param.ofNames params, none, .statements [], none⟩
  | _ => ⟨[], none⟩

end World

/-- Is a callable a routine by itself, without an object that it is called on? -/
def Callable.isFree : Callable → Bool
  | .method .. => false
  | _ => true

namespace Act

/-! ## Kinds of values -/

/-- Can a value be called? -/
def isCallable (v : Value) : Act Bool := do
  match v with
  | .classRef _ | .callable _ => return true
  | .object p =>
    let w ← get
    return (w.findMember? (w.info (w.entity p).class_).order "__call__").isSome
  | _ => return false

/-- The kind of a value about which nothing is declared; `table` knows the names of the
numeric values. -/
def runtimeKind (calls : Calls) (table v : Value) : Act String := do
  match v with
  | .null => return "undefined"
  | .bool _ => return "boolean"
  | .int _ | .float _ | .single _ => return "number"
  | .text _ => return "string"
  | _ =>
    let name ← match v with
      | .object p => calls.send table "name_for" [.classRef (← entity p).class_]
      | _ => pure .null
    match name with
    | .text s => return s
    | _ => return if ← isCallable v then "function" else "object"

/-! ## Subjects -/

/-- The view of a member of a class, as a member of `subject`. -/
def memberView (calls : Calls) (table : Value) (subject c : ClassId) (name : String)
    (m : Member) : Act (MemberView Value) := do
  let w ← get
  match m with
  | .accessor get set doc =>
    return .accessor get.isSome set.isSome
      (if get.isSome then w.docOf c name m else doc.map outdentText)
  | .routine r => return .routine r.view (w.docOf c name m)
  | .shared .class_ _ => return .shared (.callable (.method (.classRef subject) c name))
  | .shared .nobody _ => return .shared (.callable (.routine c name))
  | .constant v =>
    match v with
    | .callable f =>
      if f.isFree then return .routine (w.viewOf f) none
      else return .constant "function" v
    | v => return .constant (← runtimeKind calls table v) v

/-- The view of a class among those that `subject` inherits from. -/
def classView (calls : Calls) (table : Value) (subject c : ClassId) : Act (ClassView Value) := do
  let i ← classInfo c
  let members ← i.members.mapM fun (name, m) => do
    return (name, ← memberView calls table subject c name m)
  let slots := (i.slots.getD []).map fun name => (name, MemberView.slot)
  return ⟨i.doc, members ++ slots, i.annotations, i.table, i.notes⟩

/-- The attributes of an instance: those of its own first, then those that classes have
places for. -/
def instanceAttributes (calls : Calls) (v : Value) : Act (List (String × Value)) := do
  match v with
  | .object p =>
    let e ← entity p
    let w ← get
    let slots := (w.info e.class_).order.flatMap fun c => ((w.info c).slots.getD [])
    let own := e.attributes.filter fun (k, _) => !slots.contains k
    let placed ← slots.eraseDups.filterMapM fun name => do
      if Entries.has own name then return none
      tryCatchThe Fault (do return some (name, ← calls.member v name)) fun f =>
        if f.kind = .attribute then return none else throw f
    return own ++ placed
  | _ => return []

/-- What is reflected of a class, seen in one of its instances. -/
def subjectOf (calls : Calls) (table : Value) (c : ClassId) (probe : Value) :
    Act (Subject Value) := do
  let classes ← (← classInfo c).order.mapM (classView calls table c)
  let attributes ← (← instanceAttributes calls probe).mapM fun (name, v) => do
    match v with
    | .callable f => return (name, AttributeView.routine ((← get).viewOf f))
    | v => return (name, .value (← runtimeKind calls table v))
  return ⟨classes, attributes⟩

/-! ## Metadata as an object -/

/-- A view of infos, each as an object. -/
def newInfos {α : Type} (l : LibraryClass) (attributes : α → List (String × Value))
    (infos : List (String × α)) : Act Value := do
  newView (← infos.mapM fun (name, i) => do return (name, ← newPlain l (attributes i)))

/-- A new object that holds the metadata of a class. -/
def newMetadata (c : ClassId) (md : Metadata Value) : Act Nat := do
  let properties ← newInfos .propertyInfo (fun i => [("name", .text i.name), ("type", .type i.type),
    ("description", .text i.description)]) md.properties
  let methods ← newInfos .methodInfo (fun i => [("name", .text i.name),
    ("declared_param_types", .tuple (i.paramTypes.map .type)), ("return_type", .type i.returns),
    ("param_names", .tuple (i.paramNames.map .text))]) md.methods
  let events ← newInfos .eventInfo (fun i => [("name", .text i.name), ("type", .type i.type)])
    md.events
  let computed ← newInfos .computedInfo (fun i => [("name", .text i.name),
    ("has_getter", .bool i.hasGetter), ("has_setter", .bool i.hasSetter), ("type", .type i.type)])
    md.computed
  let statics ← newInfos .staticInfo (fun i => [("name", .text i.name), ("type", .text i.type),
    ("value", i.value), ("description", .text i.description)]) md.statics
  keep { Entity.ofClass (.library .metadata) (.metadata c md) with
    attributes := [("target", .classRef c), ("properties", properties), ("methods", methods),
      ("events", events), ("computed", computed), ("static_members", statics)] }

/-- The metadata of a class, seen in one of its instances, as a new object. -/
def extractMetadata (calls : Calls) (table : Value) (c : ClassId) (probe : Value) : Act Nat := do
  let subject ← subjectOf calls table c probe
  newMetadata c (← ofExcept (subject.extract (← typeReader)))

end Act

open Act

namespace ReflectionOperation

/-- The metadata of a class in the cache. -/
def metadataOf (i : Invocation) (c : ClassId) : Act Value := do
  let table := match ← body i.self with
    | .cache _ table => table
    | _ => .object Place.constructors
  let place ← MetadataCache.metadataFor (cacheOf i.place)
    (fun c => do return (← classInfo c).name)
    (fun c => i.calls.call (.classRef c) [] [])
    (extractMetadata i.calls table) c
  return .object place

/-- What an operation does. -/
def run (op : ReflectionOperation) (i : Invocation) : Act Value := do
  match op with
  | .makeCache =>
    let table := if (i.arg "value_types").isNull then .object Place.constructors
      else i.arg "value_types"
    change i.place ({ · with body := .cache .empty table })
    (cacheOf i.place).set .empty
    return .null
  | .metadataFor =>
    match i.arg "cls" with
    | .classRef c => metadataOf i c
    | v => fail (.about .notClass (← see v))
  | .clear =>
    (cacheOf i.place).set .empty
    return .null
  | .kind =>
    match ← body i.self with
    | .cache _ table => return .text (← runtimeKind i.calls table (i.arg "value"))
    | _ => fail (.noAttribute (← typeName i.self) "_value_types")
  | .metadataName =>
    match ← body i.self with
    | .metadata c _ => return .text (← classInfo c).name
    | _ => fail (.noAttribute (← typeName i.self) "target")

end ReflectionOperation

end SceneBridge
