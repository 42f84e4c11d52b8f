import SceneBridge.Datum.Member
import SceneBridge.Object.Routines

/-!
# Members of values

How members are read, written and listed. A computed property of the class comes first,
then the attributes of the object, then the other members of the class. Adapters add
what their targets have.
-/

namespace SceneBridge.Act

/-! ## Reading -/

/-- A member of a class as it is seen through one of its objects. -/
def boundMember (self : Value) (own owner : ClassId) (name : String) : Member → Value
  | .routine _ => .callable (.method self owner name)
  | .shared .class_ _ => .callable (.method (.classRef own) owner name)
  | .shared .nobody _ => .callable (.routine owner name)
  | .constant (.callable f) => .callable (if f.isFree then .method self owner name else f)
  | .constant v => v
  | .accessor .. => .null

/-- The member of a value that no class tells of. -/
def shownMember (v : Value) (name : String) : Act Value := do
  match ← ofExcept ((← see v).readMember name) with
  | some .function => return .callable (.routine (.library .bundle) name)
  | some d => ofDatum d
  | none => fail (.noAttribute (← typeName v) name)

/-- A member of an object. -/
def objectMember (calls : Calls) (place : Nat) (name : String) : Act Value := do
  let e ← entity place
  let w ← get
  let self := Value.object place
  let found? := w.findMember? (w.info e.class_).order name
  match found? with
  | some (_, .accessor getter _ _) =>
    let read := match getter with
      | some code => runPlainCode calls self .none code
      | none => fail (.noAttribute (w.info e.class_).name name)
    match e.body with
    | .adapter .. =>
      tryCatchThe Fault read fun f =>
        if f.kind = .attribute then bridgedMember calls place name else throw f
    | _ => read
  | _ =>
    match e.attributes.lookup name, found?, e.body with
    | some v, _, _ => return v
    | none, some (owner, m), _ => return boundMember self e.class_ owner name m
    | none, none, .adapter .. => bridgedMember calls place name
    | none, none, _ => shownMember self name

/-- A member of a class. -/
def classMember (c : ClassId) (name : String) : Act Value := do
  let w ← get
  let i := w.info c
  if name == "__name__" then return .text i.name
  match w.findMember? i.order name with
  | some (owner, .shared .class_ _) => return .callable (.method (.classRef c) owner name)
  | some (_, .constant v) => return v
  | some (owner, _) => return .callable (.routine owner name)
  | none => fail (.noAttribute i.name name)

/-- The name that a callable has itself. -/
def ownName : Callable → String
  | .method _ _ name | .routine _ name | .forwarder _ name => name
  | .listener id => id
  | .recorder tag => tag
  | _ => "<lambda>"

/-- A member of a value. -/
def memberOf (calls : Calls) (v : Value) (name : String) : Act Value := do
  match v with
  | .object p => objectMember calls p name
  | .classRef c => classMember c name
  | .callable f =>
    if name == "__name__" then return .text (ownName f) else shownMember v name
  | v => shownMember v name

/-! ## Writing -/

/-- The classes whose objects cannot be changed. -/
def frozenClasses : List LibraryClass := [
  .list, .record, .view, .array, .constructor, .metadata, .propertyInfo, .methodInfo,
  .computedInfo, .eventInfo, .staticInfo, .definition, .binding, .component]

/-- Do objects of a class have no place for an attribute of this name? -/
def lacksPlace (w : World) (c : ClassId) (name : String) : Bool :=
  let order := (w.info c).order
  order.all (fun k => (w.info k).slots.isSome) &&
    !order.any fun k => ((w.info k).slots.getD []).contains name

/-- Sets a member of an object. -/
def setObjectMember (calls : Calls) (place : Nat) (name : String) (v : Value) : Act Unit := do
  let e ← entity place
  let w ← get
  let self := Value.object place
  if let .adapter .. := e.body then
    if ← isBridged calls place name then
      discard (calls.send self "set_property" [.text name, v])
      return
  match w.findMember? (w.info e.class_).order name with
  | some (_, .accessor _ (some code) _) =>
    discard (runPlainCode calls self { Arguments.none with values := [("value", v)] } code)
  | some (_, .accessor _ none _) => fail (.noAttribute (w.info e.class_).name name)
  | _ =>
    if frozenClasses.any (w.inherits e.class_ ·) || lacksPlace w e.class_ name then
      fail (.noAttribute (w.info e.class_).name name)
    setAttribute place name v

/-- Sets a member of a class. -/
def setClassMember (c : ClassId) (name : String) (v : Value) : Act Unit := do
  let i ← classInfo c
  let changed := { i with members := Entries.put i.members name (.constant v) }
  modify fun w => { w with changedClasses := Entries.put w.changedClasses c changed }

/-- Sets a member of a value. -/
def setMemberOf (calls : Calls) (v : Value) (name : String) (x : Value) : Act Unit := do
  match v with
  | .object p => setObjectMember calls p name x
  | .classRef c => setClassMember c name x
  | v => fail (.noAttribute (← typeName v) name)

/-! ## Listing -/

/-- The names of the members of a value that are not private, in alphabetical order. -/
def memberNames (v : Value) : Act (List String) := do
  let w ← get
  let ofClass (c : ClassId) : List String :=
    (w.info c).order.flatMap fun k =>
      (w.info k).members.map Prod.fst ++ ((w.info k).slots.getD [])
  let names : List String := match v with
    | .classRef c => ofClass c
    | .object p =>
      let e := w.entity p
      e.attributes.map Prod.fst ++ ofClass e.class_ ++
        match e.body with
        | .adapter _ _ d =>
          match (w.entity d).body with
          | .definition _ d _ => d.attributes ++ d.statics.map Prod.fst
          | _ => []
        | _ => []
    | _ => []
  return ((names.filter (!isPrivate ·)).eraseDups).mergeSort

end SceneBridge.Act
