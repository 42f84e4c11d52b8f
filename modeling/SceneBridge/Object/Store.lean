import SceneBridge.Adapter.Bridge
import SceneBridge.Library.Catalogue
import SceneBridge.Node.Links
import SceneBridge.Reflect.Cache
import SceneBridge.Registry.Constructors
import SceneBridge.Settings
import SceneBridge.TypeExpr.Memo

/-!
# The store

Where objects are kept, and all else that a script can change: variables, classes,
callbacks, the log, settings, and the table of components. A computation works on this
state and may fail; what it changed before it failed stays.
-/

namespace SceneBridge

/-! ## Objects -/

/-- What an object holds besides attributes, listeners and links. -/
inductive Body where
  | plain
  | list (items : List Value)
  | record (entries : List (String × Value))
  /-- A record that cannot be written. -/
  | view (entries : List (String × Value))
  | array (a : NumArray)
  /-- The components of a vector or a rotation. -/
  | components (kind : ValueKind) (parts : List Float)
  /-- What a recording factory returned. -/
  | product (tag : String) (args : List Value)
  /-- An element, with the steps that run while it updates. -/
  | element (state : ElementState Value Value) (onUpdate : List Step)
  | adapter (element : ElementState Value Value) (state : AdapterState Value) (definition : Nat)
  | registry (r : Registry Value)
  | constructors (t : ConstructorTable Value Value)
  | converter (constructors : Value)
  | cache (c : MetadataCache ClassId Nat) (constructors : Value)
  | factory (cache converter eventPrefix : Value) (definitions : List (Value × Nat))
  | metadata (target : ClassId) (md : Metadata Value)
  | definition (target : ClassId) (d : AdapterDefinition Value) (converter : Value)
deriving Inhabited

/-- An object. -/
structure Entity where
  class_ : ClassId
  /-- Attributes in the order in which they were first set. -/
  attributes : List (String × Value)
  listeners : Listeners Value Value
  links : Links
  body : Body
deriving Inhabited

/-- A new object of a class. -/
def Entity.ofClass (c : ClassId) (body : Body) : Entity := ⟨c, [], .empty, .none, body⟩

/-! ## Answers -/

/-- What a step has to say about its result. -/
inductive Report where
  | datum (d : Datum)
  | metadata (className : String) (md : Metadata Datum)
  | definition (d : AdapterDefinition Datum)
  /-- An adapter with its values, attributes, and the attributes of its target. -/
  | adapter (phase : AdapterPhase) (pending hasUpdated isConnected : Bool)
    (values : List (String × Datum)) (texts : List (String × String))
    (target : Option (List (String × Datum)))
  | element (pending hasUpdated isConnected : Bool) (values : List (String × Datum))
  | attributes (values : List (String × Datum))
deriving Inhabited

/-- The state of an element after a step. -/
structure Status where
  phase : Option AdapterPhase
  isPending : Bool
  isConnected : Bool
deriving Inhabited

/-- The answer to a step within the log. -/
structure StepAnswer where
  outcome : Except Fault Report
  status : Option Status
deriving Inhabited

/-- What callbacks and hooks write down. -/
inductive LogEntry where
  /-- A callback was called; the answers to its steps follow if it has any. -/
  | called (listener : String) (argument : Datum) (answers : Option (List StepAnswer))
  /-- A hook of an element was called. -/
  | hook (name : String) (changed : List (String × Datum))
  /-- A step that ran inside an update. -/
  | step (answer : StepAnswer)
deriving Inhabited

/-! ## The state -/

/-- What a callback does. -/
structure ListenerSpec where
  steps : List Step
  fails : Bool
deriving Inhabited

/-- All that a script can change. -/
structure World where
  environment : Environment
  settings : Settings
  memo : TypeExpr.Memo
  customs : Array ClassInfo
  /-- Classes of which a member was replaced. -/
  changedClasses : List (ClassId × ClassInfo)
  store : Array Entity
  /-- Variables, in the order in which they were first bound. -/
  bindings : List (String × Value)
  listeners : List (String × ListenerSpec)
  log : Array LogEntry
  components : Registry Value
  /-- Are two values one object, if there may be several that are equal to it? -/
  isShared : Value → Value → Bool
deriving Inhabited

/-- A computation on the state that may fail. -/
abbrev Act := ExceptT Fault (StateM World)

namespace World

/-- Are two values one and the same object? -/
def isOne (w : World) (a b : Value) : Bool :=
  if a.isSingle || b.isSingle then a.same b else w.isShared a b

/-- What is known of a class. -/
def info (w : World) (c : ClassId) : ClassInfo :=
  match w.changedClasses.lookup c with
  | some i => i
  | none =>
    match c with
    | .library l => l.info
    | .custom i => w.customs[i]?.getD default

/-- The object at a place. -/
def entity (w : World) (place : Nat) : Entity :=
  w.store[place]?.getD default

/-- Does a class inherit from a class of the library? -/
def inherits (w : World) (c : ClassId) (l : LibraryClass) : Bool :=
  (w.info c).order.contains (.library l)

/-- Is the value an object of a class of the library? -/
def isA (w : World) (v : Value) (l : LibraryClass) : Bool :=
  match v with
  | .object p => w.inherits (w.entity p).class_ l
  | _ => false

/-- The class of the library nearest to a class. -/
def nearestLibrary? (w : World) (c : ClassId) : Option LibraryClass :=
  (w.info c).order.findSome? fun
    | .library l => some l
    | .custom _ => none

/-- The member of a name in the nearest class that has one, with that class. -/
def findMember? (w : World) (order : List ClassId) (name : String) : Option (ClassId × Member) :=
  order.findSome? fun c => ((w.info c).members.lookup name).map (c, ·)

end World

namespace Act

/-! ## Reading and writing the store -/

/-- Fails. -/
def fail {α : Type} (f : Fault) : Act α := throw f

/-- The object at a place. -/
def entity (place : Nat) : Act Entity := do
  return (← get).entity place

/-- Changes the object at a place. -/
def change (place : Nat) (f : Entity → Entity) : Act Unit :=
  modify fun w => { w with store := w.store.modify place f }

/-- Keeps a new object. -/
def keep (e : Entity) : Act Nat :=
  modifyGet fun w => (w.store.size, { w with store := w.store.push e })

/-- Keeps a new object of a class of the library, and returns it. -/
def new (l : LibraryClass) (body : Body) : Act Value := do
  return .object (← keep (.ofClass (.library l) body))

/-- A new list. -/
def newList (items : List Value) : Act Value := new .list (.list items)

/-- A new record. -/
def newRecord (entries : List (String × Value)) : Act Value := new .record (.record entries)

/-- A new record that cannot be written. -/
def newView (entries : List (String × Value)) : Act Value := new .view (.view entries)

/-- A new array. -/
def newArray (a : NumArray) : Act Value := new .array (.array a)

/-- A new object that is nothing but its attributes. -/
def newPlain (l : LibraryClass) (attributes : List (String × Value)) : Act Value := do
  return .object (← keep { Entity.ofClass (.library l) .plain with attributes })

/-- What is known of a class. -/
def classInfo (c : ClassId) : Act ClassInfo := do
  return (← get).info c

/-- What an object holds. -/
def body (v : Value) : Act Body := do
  match v with
  | .object p => return (← entity p).body
  | _ => return .plain

/-- Is the value an object of a class of the library? -/
def isA (v : Value) (l : LibraryClass) : Act Bool := do
  return (← get).isA v l

/-- The attribute of an object, without asking its class. -/
def attribute? (place : Nat) (name : String) : Act (Option Value) := do
  return (← entity place).attributes.lookup name

/-- Sets an attribute of an object, without asking its class. -/
def setAttribute (place : Nat) (name : String) (value : Value) : Act Unit :=
  change place fun e => { e with attributes := Entries.put e.attributes name value }

/-- Writes to the log. -/
def log (entry : LogEntry) : Act Unit :=
  modify fun w => { w with log := w.log.push entry }

/-! ## Cells of the store -/

/-- The listeners of an object. -/
def listenersOf (place : Nat) : Cell Act (Listeners Value Value) where
  get := return (← entity place).listeners
  set ls := change place ({ · with listeners := ls })

/-- The state of an element or an adapter. -/
def elementOf (place : Nat) : Cell Act (ElementState Value Value) where
  get := return match (← entity place).body with
    | .element s _ => s
    | .adapter s _ _ => s
    | _ => .empty
  set s := change place fun e =>
    match e.body with
    | .element _ steps => { e with body := .element s steps }
    | .adapter _ a d => { e with body := .adapter s a d }
    | _ => e

/-- The state of an adapter besides that of an element. -/
def adapterOf (place : Nat) : Cell Act (AdapterState Value) where
  get := return match (← entity place).body with
    | .adapter _ a _ => a
    | _ => default
  set a := change place fun e =>
    match e.body with
    | .adapter s _ d => { e with body := .adapter s a d }
    | _ => e

/-- The entries of a registry. -/
def registryOf (place : Nat) : Cell Act (Registry Value) where
  get := return match (← entity place).body with
    | .registry r => r
    | .constructors t => t.registry
    | _ => .empty
  set r := change place fun e =>
    match e.body with
    | .registry _ => { e with body := .registry r }
    | .constructors t => { e with body := .constructors { t with registry := r } }
    | _ => e

/-- The constructors of a table. -/
def constructorsOf (place : Nat) : Cell Act (ConstructorTable Value Value) where
  get := return match (← entity place).body with
    | .constructors t => t
    | _ => .empty
  set t := change place ({ · with body := .constructors t })

/-- The metadata that a cache remembers. -/
def cacheOf (place : Nat) : Cell Act (MetadataCache ClassId Nat) where
  get := return match (← entity place).body with
    | .cache c _ => c
    | _ => .empty
  set c := change place fun e =>
    match e.body with
    | .cache _ r => { e with
        body := .cache c r
        attributes := Entries.put e.attributes "extractions" (.int c.extractions) }
    | _ => e

/-- The definitions that a factory keeps. -/
def definitionsOf (place : Nat) : Cell Act (List (Value × Nat)) where
  get := return match (← entity place).body with
    | .factory _ _ _ definitions => definitions
    | _ => []
  set definitions := change place fun e =>
    match e.body with
    | .factory cache converter eventPrefix _ =>
      { e with body := .factory cache converter eventPrefix definitions }
    | _ => e

/-- The table of components. -/
def components : Cell Act (Registry Value) where
  get := return (← get).components
  set r := modify ({ · with components := r })

end Act

/-! ## Calls -/

/-- How values are called, and how their members are read and written: what an operation
needs for everything that is left to the class of an object. -/
structure Calls where
  call : Value → List Value → List (String × Value) → Act Value
  member : Value → String → Act Value
  setMember : Value → String → Value → Act Unit
  evaluate : Literal → Act Value
  run : List Step → Act (List StepAnswer)

namespace Calls

/-- Calls the member of an object. -/
def send (c : Calls) (receiver : Value) (name : String) (args : List Value) : Act Value := do
  c.call (← c.member receiver name) args []

/-- A new object of a class of the library. -/
def make (c : Calls) (l : LibraryClass) (args : List Value) : Act Value :=
  c.call (.classRef (.library l)) args []

/-- Sets members of an object in turn. -/
def setMembers (c : Calls) (v : Value) (members : List (String × Value)) : Act Unit :=
  members.forM fun (name, x) => c.setMember v name x

/-- The member of an object; nothing if there is none. -/
def peek (c : Calls) (v : Value) (name : String) : Act Value :=
  tryCatchThe Fault (c.member v name) fun f =>
    if f.kind = .attribute then return .null else throw f

end Calls

/-! ## Places of the objects that are always there -/

namespace Place

/-- The constructors of the numeric values. -/
def constructors : Nat := 1

/-- The usual converter. -/
def converter : Nat := 2

/-- The usual cache of metadata. -/
def cache : Nat := 3

/-- The usual factory of adapters. -/
def factory : Nat := 4

/-- The first of the constructors of the numeric values. -/
def firstConstructor : Nat := 5

end Place

end SceneBridge
