import SceneBridge.Datum.Printer
import SceneBridge.Datum.Truth
import SceneBridge.Object.Store

/-!
# Seeing values

A value as a datum: what can be seen of it at the moment, with the objects that it
leads to. An object that a variable holds is labelled with the variable.
-/

namespace SceneBridge

namespace World

/-- The first variable that holds an object. -/
def label? (w : World) (place : Nat) : Option String :=
  (w.bindings.find? fun (_, v) => v.same (.object place)).map (·.1)

/-- Who an object is. -/
def identity (w : World) (place : Nat) : Identity :=
  ⟨(w.info (w.entity place).class_).name, place, w.label? place⟩

/-- The cells of the array that an object has under a name. -/
def cellsOf? (w : World) (e : Entity) (name : String) : Option (List Float) :=
  match e.attributes.lookup name with
  | some (.object p) =>
    match (w.entity p).body with
    | .array a => some a.cells
    | _ => none
  | _ => none

/-- A list of cells by rows, read by columns. -/
def byColumns (order : Nat) (cells : List Float) : List Float :=
  (List.range (order * order)).map fun i => cells.getD (i % order * order + i / order) 0

/-- The parts of an object that is a numeric value. -/
def parts? (w : World) (e : Entity) : Option (ValueKind × List Float) :=
  match e.body with
  | .components kind parts => some (kind, parts)
  | .plain =>
    match (w.nearestLibrary? e.class_).bind LibraryClass.valueKind? with
    | some .color => (w.cellsOf? e "rgb").map fun cells => (.color, cells)
    | some kind => (w.cellsOf? e "elements").map fun cells => (kind, byColumns kind.order cells)
    | none => none
  | _ => none

/-- The written form of an object that shows nothing of what it holds. -/
def plainForm (i : ClassInfo) : String :=
  "<" ++ (if i.home.isEmpty then i.name else i.home ++ "." ++ i.name) ++ " object>"

/-- The written form of a node. -/
def nodeForm (className : String) (name : Datum) (childCount : Nat) : String :=
  "<" ++ className ++ (if name.truth? == some false then "" else " " ++ name.quote) ++
    " children=" ++ toString childCount ++ ">"

mutual

/-- A value as a datum, at most `depth` objects deep. -/
def see (w : World) (depth : Nat) (v : Value) : Datum :=
  match v with
  | .null => .null
  | .bool b => .bool b
  | .int n => .int n
  | .float x => .float x
  | .single x => .single x
  | .flag b => .flag b
  | .text s => .text s
  | .tuple vs => .tuple (seeAll w depth vs)
  | .type t => .type t
  | .token n => .token n
  | .classRef c => .classRef (w.info c).name (w.info c).home
  | .callable _ => .function
  | .object p =>
    match depth with
    | 0 => .object (w.identity p) .plain "..."
    | d + 1 => seeObject w d p
termination_by (depth, 0, sizeOf v)

/-- Some values as data. -/
def seeAll (w : World) (depth : Nat) (vs : List Value) : List Datum :=
  match vs with
  | [] => []
  | v :: vs => see w depth v :: seeAll w depth vs
termination_by (depth, 0, sizeOf vs)

/-- Named values as data. -/
def seeEntries (w : World) (depth : Nat) (es : List (String × Value)) : List (String × Datum) :=
  match es with
  | [] => []
  | (k, v) :: es => (k, see w depth v) :: seeEntries w depth es
termination_by (depth, 0, sizeOf es)

/-- The object at a place as a datum. -/
def seeObject (w : World) (depth : Nat) (place : Nat) : Datum :=
  let e := w.entity place
  let who := w.identity place
  let i := w.info e.class_
  let part (name : String) : Datum := see w depth ((e.attributes.lookup name).getD .null)
  match e.body with
  | .list vs => .list (seeAll w depth vs)
  | .record es | .view es => .record (seeEntries w depth es)
  | .array a => .array (a.map .real)
  | .components kind parts => .value who kind parts
  | .product tag args => .product tag (seeAll w depth args)
  | .metadata c md => .object { who with className := (w.info c).name } .metadata
      (md.written (w.info c).name)
  | .definition c _ _ => .object { who with className := (w.info c).name } .definition
      ("AdapterDefinition(" ++ (w.info c).name ++ ")")
  | .adapter _ _ d =>
    match (w.entity d).body with
    | .definition c _ _ =>
      .object { who with className := (w.info c).name } .adapter (plainForm i)
    | _ => .object who .plain (plainForm i)
  | .plain =>
    match w.parts? e with
    | some (kind, parts) => .value who kind parts
    | none =>
      match w.nearestLibrary? e.class_ with
      | some .bundle => .bundle (seeEntries w depth e.attributes)
      | some .sceneEvent =>
        .sceneEvent (part "type") (part "target") (match part "data" with
          | .record es => es
          | _ => [])
      | some .elementEvent =>
        .elementEvent (part "type") (part "detail") (part "target") (part "bubbles")
      | some .constructor =>
        .constructor (part "name").plain (part "layout").plain (match part "value_class" with
          | .classRef c _ => some c
          | _ => none)
      | some .component =>
        .component (part "tag").plain (match part "definition" with
          | .object d _ _ => d.className
          | _ => "")
      | _ =>
        if w.inherits e.class_ .node then
          .object who .plain (nodeForm i.name (part "name") e.links.children.length)
        else .object who .plain (plainForm i)
  | _ => .object who .plain (plainForm i)
termination_by (depth, 1, 0)

end

/-- How deep values are seen. -/
def depthLimit : Nat := 60

end World

namespace Act

/-- A value as a datum. -/
def see (v : Value) : Act Datum := do
  return (← get).see World.depthLimit v

/-- A value as a datum that has a written form. -/
def seeWritable (v : Value) : Act Datum := do
  let d ← see v
  if d.isWritable then return d else fail .unwritten

/-- The plain form of a value. -/
def plain (v : Value) : Act String := do
  return (← seeWritable v).plain

/-- The quoted form of a value. -/
def quote (v : Value) : Act String := do
  return (← seeWritable v).quote

/-- Are two values equal? `none` if the question has no answer. -/
def equal? (a b : Value) : Act (Option Bool) := do
  if a.same b then return some true
  return Datum.equal? (← see a) (← see b)

/-- Is the new value a change from the old one? -/
def differs (old new : Value) : Act Bool := do
  if (← get).isOne old new then return false
  return Datum.differs (← see old) (← see new)

/-- Does a value count as yes? -/
def truth (v : Value) : Act Bool := do
  match v with
  | .object p =>
    match (← entity p).body with
    | .registry r => return !r.entries.isEmpty
    | .constructors t => return !t.registry.entries.isEmpty
    | .cache c _ => return !c.entries.isEmpty
    | _ =>
      match (← see v).truth? with
      | some b => return b
      | none => fail .ambiguousTruth
  | v => return ((← see v).truth?).getD true

/-- The name of the kind of a value. -/
def typeName (v : Value) : Act String := do
  match v with
  | .object p => return ((← get).info (← entity p).class_).name
  | v => return (← see v).typeName

/-! ## Values of data -/

/-- The value of a datum that stands for itself. -/
def ofPlain? : Datum → Option Value
  | .null => some .null
  | .bool b => some (.bool b)
  | .int n => some (.int n)
  | .float x => some (.float x)
  | .single x => some (.single x)
  | .flag b => some (.flag b)
  | .text s => some (.text s)
  | .type t => some (.type t)
  | .token n => some (.token n)
  | _ => none

mutual

/-- The value of a datum; lists, records and arrays are new objects. -/
def ofDatum (d : Datum) : Act Value := do
  match d with
  | .list ds => newList (← ofData ds)
  | .tuple ds => return .tuple (← ofData ds)
  | .record es => newRecord (← ofEntries es)
  | .array a => newArray (a.map ArrayCell.toFloat)
  | d => return (ofPlain? d).getD .null

/-- The values of some data. -/
def ofData (ds : List Datum) : Act (List Value) := do
  match ds with
  | [] => return []
  | d :: ds => return (← ofDatum d) :: (← ofData ds)

/-- The values of named data. -/
def ofEntries (es : List (String × Datum)) : Act (List (String × Value)) := do
  match es with
  | [] => return []
  | (k, d) :: es => return (k, ← ofDatum d) :: (← ofEntries es)

end

end Act

end SceneBridge
