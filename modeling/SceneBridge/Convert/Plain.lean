import SceneBridge.Convert.Conversion
import SceneBridge.Datum.Member
import SceneBridge.Registry.Key
import SceneBridge.Values.Build

/-!
# Conversion of data

Conversion where values are data, the constructors are those of the numeric values,
and every note is kept.
-/

namespace SceneBridge

/-! ## Keeping notes -/

/-- A computation over values `V` that may fail and takes notes, the last one first; notes
taken before a fault stay. -/
abbrev Trace (V : Type) := ExceptT Fault (StateM (List (Note V)))

namespace Surroundings

variable {V C : Type}

/-- The surroundings whose operations are those of `k`, which change nothing, and where every
note is kept. -/
def recorded (k : Surroundings (Except Fault) V C) : Surroundings (Trace V) V C where
  see v := Conversion.lift (k.see v)
  ofDatum d := Conversion.lift (k.ofDatum d)
  items? v := Conversion.lift (k.items? v)
  entries? v := Conversion.lift (k.entries? v)
  memberOf v name := Conversion.lift (k.memberOf v name)
  textOf v := Conversion.lift (k.textOf v)
  list vs := Conversion.lift (k.list vs)
  record es := Conversion.lift (k.record es)
  constructor? name := Conversion.lift (k.constructor? name)
  layout c := Conversion.lift (k.layout c)
  accepts c v := Conversion.lift (k.accepts c v)
  build c vs := Conversion.lift (k.build c vs)
  note n := modify (n :: ·)

/-- Converts a value to a type, with the notes in the order in which they were taken. -/
def convert (k : Surroundings (Except Fault) V C) (traced : Bool) (v : V) (t : TypeExpr) :
    Except Fault V × List (Note V) :=
  let (result, notes) := (Conversion.convert k.recorded traced v t).run.run []
  (result, notes.reverse)

end Surroundings

/-! ## Data -/

/-- How the constructor of a kind of numeric value takes its components. -/
def ValueKind.layout (kind : ValueKind) : Layout :=
  if kind.isMatrix then .flat else if kind == .color then .text else .positional

/-- The kind of numeric value that a type name stands for, in any spelling of the name. -/
def ValueKind.ofTypeName? (name : String) : Option ValueKind :=
  match Registry.key name with
  | .error _ => none
  | .ok key =>
    ValueKind.all.find? fun kind =>
    match Registry.key kind.name with
    | .ok k => k == key
    | .error _ => false

/-- The surroundings of data. -/
def dataSurroundings : Surroundings (Except Fault) Datum ValueKind where
  see d := pure d
  ofDatum d := pure d
  items?
    | .list ds | .tuple ds => pure (some ds)
    | _ => pure none
  entries?
    | .record es => pure (some es)
    | _ => pure none
  memberOf d name := do return (← d.readMember name).getD .null
  textOf d := if d.isWritable then pure d.plain else throw .unwritten
  list ds := pure (.list ds)
  record es := pure (.record es)
  constructor? name := pure (ValueKind.ofTypeName? name)
  layout kind := pure kind.layout
  accepts
    | kind, .value _ kind' _ => pure (kind == kind')
    | _, _ => pure false
  build kind args := do
    let parts ← kind.construct args
    return .value (.ofClass kind.name) kind parts
  note _ := pure ()

/-- Converts a datum to a type, with the notes in the order in which they were taken. -/
def Datum.convert (traced : Bool) (d : Datum) (t : TypeExpr) :
    Except Fault Datum × List (Note Datum) :=
  dataSurroundings.convert traced d t

end SceneBridge
