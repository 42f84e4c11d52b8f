import SceneBridge.Reflect.Objects
import SceneBridge.Object.Order

/-!
# Classes of scripts

How a script describes a class: its bases, the members of its body in order, and what an
object is set up with. From the description to the class.
-/

namespace SceneBridge

open Text

/-! ## Descriptions -/

/-- A parameter of a routine as it is written. -/
structure ParamSpec where
  name : String
  hint : Option String
  default : Option Literal
deriving Inhabited

/-- A routine as it is written. -/
structure RoutineSpec where
  params : List ParamSpec
  returns : Option String
  doc : Option String
  body : List Statement
deriving Inhabited

/-- A member of the body of a class. -/
inductive MemberSpec where
  | constant (value : Literal) (hint : Option String) (doc : Option String)
  /-- A declaration without a value. -/
  | declaration (hint : String) (doc : Option String)
  /-- A computed property over the attributes that are read and written. -/
  | property (read write : Option String) (asNumber : Bool) (doc : Option String)
  | method (r : RoutineSpec)
  | shared (on : CalledOn) (r : RoutineSpec)
deriving Inhabited

/-- How an attribute is assigned when an object is set up. -/
inductive FieldForm where
  | plain
  /-- Together with a private attribute. -/
  | paired
  /-- Inside of another statement. -/
  | nested
  /-- Not to the object at all. -/
  | unbound
  /-- A routine that does nothing. -/
  | routine (params : List String)
deriving Inhabited

/-- An attribute that a new object gets. -/
structure FieldSpec where
  name : String
  value : Literal
  doc : Option String
  form : FieldForm
deriving Inhabited

/-- A class as a script describes it. -/
structure ClassSpec where
  name : String
  bases : List String
  doc : Option String
  slots : Option (List String)
  /-- The table of members. -/
  table : Literal
  /-- Can the notes behind assignments be read? -/
  hasNotes : Bool
  members : List (String × MemberSpec)
  /-- Parameters that a new object needs. -/
  required : List String
  /-- What a new object fails with. -/
  failure : Option String
  fields : List FieldSpec
deriving Inhabited

/-! ## Annotations and notes -/

/-- An annotation as it is written: a text, or after an equality sign an expression, which
names a class if it is a single word. -/
def Annotation.ofWritten (s : String) : Annotation :=
  match s.toList with
  | '=' :: cs =>
    if cs.all isWordChar && cs != "None".toList then .named (String.ofList cs) else .other
  | _ => .text s

/-- The note behind the assignment of a field; only a plain assignment has one. -/
def FieldSpec.note? (f : FieldSpec) : Option (String × String) :=
  match f.form with
  | .plain | .routine _ => f.doc.map fun d => (f.name, outdentText d)
  | _ => none

/-- The note behind a member of the body of a class. -/
def MemberSpec.note? : MemberSpec → Option String
  | .constant _ _ doc | .declaration _ doc => doc.map outdentText
  | _ => none

/-- The notes of a class: those of its body first. A repeated name keeps its first place and
its last text. -/
def ClassSpec.notes (s : ClassSpec) : List (String × String) :=
  if s.hasNotes then
    Entries.putAll []
      (s.members.filterMap (fun (name, m) => m.note?.map (name, ·)) ++
        s.fields.filterMap FieldSpec.note?)
  else []

/-- The annotation of a member of the body of a class. -/
def MemberSpec.hint? : MemberSpec → Option Annotation
  | .constant _ hint _ => hint.map Annotation.ofWritten
  | .declaration hint _ => some (.ofWritten hint)
  | _ => none

/-- The names and the value of an attribute that a new object gets. -/
def FieldSpec.assignment? (f : FieldSpec) : Option (List String × FieldValue) :=
  match f.form with
  | .plain | .nested => some ([f.name], .literal f.value)
  | .paired => some ([f.name, "_" ++ f.name], .literal f.value)
  | .unbound => none
  | .routine params => some ([f.name], .routine params)

/-- How an object is set up, if the class says anything about it. -/
def ClassSpec.init? (s : ClassSpec) : Option Routine :=
  if s.required.isEmpty && s.failure.isNone && s.fields.isEmpty then none
  else some ⟨s.required.map Param.needed, none,
    .construct (!s.bases.isEmpty) s.failure (s.fields.filterMap FieldSpec.assignment?), none⟩

namespace Act

/-! ## Classes by name -/

/-- The class of a name: the latest one that a script describes, or one of the library. -/
def classNamed (name : String) : Act ClassId := do
  let w ← get
  let described := (List.range w.customs.size).reverse.find? fun i =>
    (w.customs[i]?.map (·.name)) == some name
  match described, LibraryClass.nameable.find? (·.info.name == name) with
  | some i, _ => return .custom i
  | none, some l => return .library l
  | none, none => fail (.unbound name)

/-! ## Definition -/

/-- A routine from its description. -/
def routineOf (calls : Calls) (r : RoutineSpec) : Act Routine := do
  let params ← r.params.mapM fun p => do
    let default ← p.default.mapM calls.evaluate
    return (p.name, p.hint.map Annotation.ofWritten, default)
  return ⟨Param.ofWritten params, r.returns.map Annotation.ofWritten, .statements r.body, r.doc⟩

/-- A member from its description; a declaration makes none. -/
def memberOfSpec (calls : Calls) (m : MemberSpec) : Act (Option Member) := do
  match m with
  | .constant value _ _ => return some (.constant (← calls.evaluate value))
  | .declaration .. => return none
  | .property read write asNumber doc =>
    return some (.accessor (read.map .readField) (write.map (.writeField · asNumber)) doc)
  | .method r => return some (.routine (← routineOf calls r))
  | .shared on r => return some (.shared on (← routineOf calls r))

/-- Defines a class from its description. -/
def defineClass (calls : Calls) (s : ClassSpec) : Act Unit := do
  let self := ClassId.custom (← get).customs.size
  let bases ← s.bases.mapM fun name => do
    let c ← classNamed name
    return (c, (← classInfo c).order)
  let order ← match inheritanceOrder? self bases with
    | some order => pure order
    | none => fail (.basic .type "Cannot create a consistent method resolution order")
  let members ← s.members.filterMapM fun (name, m) => do
    return (← memberOfSpec calls m).map (name, ·)
  let table ← match ← see (← calls.evaluate s.table) with
    | .record es => pure es
    | _ => pure []
  let info : ClassInfo := {
    name := s.name
    home := ""
    order
    doc := s.doc
    members := Entries.putAll [] members
    annotations := Entries.putAll [] (s.members.filterMap fun (name, m) =>
      m.hint?.map (name, ·))
    table
    notes := s.notes
    slots := s.slots
    init := s.init? }
  modify fun w => { w with customs := w.customs.push info }

end Act

end SceneBridge
