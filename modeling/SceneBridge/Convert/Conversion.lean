import SceneBridge.Convert.Coercion
import SceneBridge.Json.Reader
import SceneBridge.TypeExpr.Printer

/-!
# Conversion

Turning a loosely typed value, mostly a text, into what a type expression asks for.

Where values live and how they are built is left open: a conversion works over any
kind of values with the operations of `Surroundings`. Outside of a choice a value
that does not fit passes through as it is, and a note is taken. Inside a choice it
makes the alternative fail, and the next one is tried; only a choice without a
fitting alternative is a fault.
-/

namespace SceneBridge

open Text

/-! ## Surroundings -/

/-- How a constructor takes the numbers that a value is made of. -/
inductive Layout where
  /-- One by one. -/
  | positional
  /-- All in one list. -/
  | flat
  /-- One by one, or as the text itself where that is not made of numbers. -/
  | text
deriving Repr, DecidableEq

/-- The name of a layout. -/
def Layout.name : Layout → String
  | .positional => "positional"
  | .flat => "flat"
  | .text => "text"

/-- The layout of a name. -/
def Layout.ofName? (name : String) : Option Layout :=
  [Layout.positional, .flat, .text].find? (·.name == name)

/-- What a conversion took note of. -/
inductive Note (V : Type) where
  /-- The value passed through as it is. -/
  | passThrough (value : V) (type : TypeExpr) (reason : Reason)
  /-- An alternative of a choice failed. -/
  | branchFailed (type : TypeExpr) (value : V) (fault : Fault)
  /-- A conversion as a whole. -/
  | converted (value : V) (type : TypeExpr) (result : V)

/-- The wording of a note about data. -/
def Note.text : Note Datum → String
  | .passThrough v t reason =>
    "pass-through " ++ v.quote ++ " as " ++ t.format ++ " (" ++ Fault.reasonText reason ++ ")"
  | .branchFailed t v fault =>
    "union branch " ++ t.format ++ " failed for " ++ v.quote ++ ": " ++ fault.text
  | .converted v t r => "convert " ++ v.quote ++ " as " ++ t.format ++ " -> " ++ r.quote

/-- What a conversion needs to know of the values `V`, and of the constructors `C` that
build values by name. -/
structure Surroundings (m : Type → Type) (V C : Type) where
  /-- The value as a datum. -/
  see : V → m Datum
  /-- The value of a datum. -/
  ofDatum : Datum → m V
  /-- The items of a list or a tuple. -/
  items? : V → m (Option (List V))
  /-- The entries of a record. -/
  entries? : V → m (Option (List (String × V)))
  /-- The member of an object that is no record; nothing if it has none. -/
  memberOf : V → String → m V
  /-- The text of a value. -/
  textOf : V → m String
  list : List V → m V
  record : List (String × V) → m V
  /-- The constructor of a type name. -/
  constructor? : String → m (Option C)
  layout : C → m Layout
  /-- Is the value one that the constructor makes? -/
  accepts : C → V → m Bool
  build : C → List V → m V
  note : Note V → m Unit

/-- The surroundings in which members of objects are read by `look`. -/
def Surroundings.looking {m : Type → Type} {V C : Type} (k : Surroundings m V C)
    (look : V → String → m V) : Surroundings m V C :=
  { k with memberOf := look }

namespace Conversion

variable {m : Type → Type} [Monad m] [MonadExceptOf Fault m] {V C : Type}

/-- A result that may be a fault, as a computation. -/
def lift {α : Type} : Except Fault α → m α
  | .ok a => pure a
  | .error f => throw f

/-! ## Values by constructor -/

/-- The values of some numbers. -/
def ofQuantities (k : Surroundings m V C) (qs : List Number.Quantity) : m (List V) :=
  qs.mapM fun q => k.ofDatum (Datum.ofQuantity q)

/-- Builds a value from its components. -/
def buildFrom (k : Surroundings m V C) (c : C) (qs : List Number.Quantity) : m V := do
  let vs ← ofQuantities k qs
  match ← k.layout c with
  | .flat => k.build c [← k.list vs]
  | _ => k.build c vs

/-- Builds a value from a text, a list or an array of components. -/
def buildValue (k : Surroundings m V C) (c : C) (v : V) : m V := do
  if ← k.accepts c v then return v
  let d ← k.see v
  match ← k.layout c, d with
  | .text, .text s =>
    match d.components with
    | .ok qs => k.build c (← ofQuantities k qs)
    | .error _ => k.build c [← k.ofDatum (.text (trimText s))]
  | _, d => buildFrom k c (← lift d.components)

/-! ## Passing through -/

/-- A value that does not fit: it passes through with a note, or fails inside a choice. -/
def degrade (k : Surroundings m V C) (strict : Bool) (v : V) (t : TypeExpr) (reason : Reason) :
    m V := do
  if strict then
    throw (.about (.attempt reason · t) (← k.see v))
  else
    k.note (.passThrough v t reason)
    return v

/-- Runs `body`; if it fails with a fault of a kind in `kinds`, the value passes through. -/
def orDegrade (k : Surroundings m V C) (strict : Bool) (v : V) (t : TypeExpr)
    (kinds : FaultKind → Bool) (reason : Fault → Reason) (body : m V) : m V := do
  let outcome ← tryCatchThe Fault (Except.ok <$> body) fun f => return .error f
  match outcome with
  | .ok r => return r
  | .error f => if kinds f.kind then degrade k strict v t (reason f) else throw f

/-! ## Names -/

/-- The types that any value has. -/
def isAny (name : String) : Bool :=
  name == "any" || name == "*" || name == "mixed"

/-- The types that are no constructors. -/
inductive Primitive where
  | number
  | float
  | int
  | boolean
  | string
deriving Repr, DecidableEq

/-- The primitive type of a name. -/
def primitive? : String → Option Primitive
  | "number" => some .number
  | "float" => some .float
  | "int" => some .int
  | "boolean" | "bool" => some .boolean
  | "string" | "str" => some .string
  | _ => none

/-- Coerces a value to a primitive type. -/
def coerce (k : Surroundings m V C) (p : Primitive) (v : V) : m V := do
  let d ← k.see v
  match p with
  | .number => k.ofDatum (Datum.ofQuantity (← lift d.toNumber))
  | .float => k.ofDatum (.float (← lift (do (← d.toNumber).toFloat)))
  | .int => k.ofDatum (.int (← lift (do (← d.toNumber).toInt)))
  | .boolean => k.ofDatum (.bool (← lift d.toBool))
  | .string =>
    match d with
    | .text _ => return v
    | _ => k.ofDatum (.text (← k.textOf v))

/-- The kinds of faults of a constructor for which a value passes through. -/
def isBuildKind (kind : FaultKind) : Bool :=
  kind.isValue || kind == .type

/-- Converts a value to a named type. -/
def convertScalar (k : Surroundings m V C) (strict : Bool) (v : V) (name : String) : m V := do
  let t := TypeExpr.scalar name
  if isAny name then return v
  match primitive? name with
  | some p => orDegrade k strict v t FaultKind.isValue .coercion (coerce k p v)
  | none =>
    match ← k.constructor? name with
    | none => degrade k strict v t (.unknownType name)
    | some c => orDegrade k strict v t isBuildKind (.construction name) (buildValue k c v)

/-! ## Parts -/

/-- The number or the truth value that a cell of an array holds. -/
def cellItem : ArrayCell → Datum
  | .real x | .single x => .float x
  | .whole n => .int n.toInt
  | .flag b => .bool b

/-- A list of the items that an array holds, row by row. -/
def arrayItems : List Nat → List ArrayCell → List Datum
  | [], _ => []
  | [_], cells => cells.map cellItem
  | n :: shape, cells =>
    let rowSize := shape.foldl (· * ·) 1
    (List.range n).map fun i => .list (arrayItems shape ((cells.drop (i * rowSize)).take rowSize))

/-- The items of a value that is a list of some kind. -/
def listItems? (k : Surroundings m V C) (v : V) : m (Option (List V)) := do
  match ← k.see v with
  | .text s =>
    return some (← (splitValues s.toList none).mapM fun p => k.ofDatum (.text (String.ofList p)))
  | .array ⟨[], _⟩ => throw .notIterable
  | .array a => return some (← (arrayItems a.shape a.cells).mapM k.ofDatum)
  | _ => k.items? v

/-- The parts of a value that are handed to a constructor with `n` parameters. Only the
parts of a text are cut off after the last parameter. -/
def genericParts? (k : Surroundings m V C) (v : V) (n : Nat) : m (Option (List V)) := do
  match ← k.see v with
  | .text s =>
    let parts := (splitValues s.toList none).take n
    return some (← parts.mapM fun p => k.ofDatum (.text (String.ofList p)))
  | .array a => return some (← a.cells.mapM fun c => k.ofDatum (cellItem c))
  | _ => k.items? v

/-- How the fields of a value are read. -/
inductive FieldSource (V : Type) where
  /-- From the entries of a record. -/
  | entries (entries : List (String × V))
  /-- From the entries of a record that a text holds. -/
  | data (entries : List (String × Datum))
  /-- From the attributes of an object. -/
  | attributes (object : V)

/-- The field of a value; nothing if it has none. -/
def FieldSource.get (k : Surroundings m V C) (key : String) : FieldSource V → m V
  | .entries es =>
    match es.lookup key with
    | some v => return v
    | none => k.ofDatum .null
  | .data es => k.ofDatum ((es.lookup key).getD .null)
  | .attributes v => k.memberOf v key

/-- Where the fields of a value are found, or why it has none. -/
def fieldSource (k : Surroundings m V C) (v : V) : m (Except Reason (FieldSource V)) := do
  match ← k.see v with
  | .text s =>
    match Json.read s.toList with
    | .error .longInteger => throw .longInteger
    | .error (.at_ c i) => return .error (.unreadable (Json.complaintText s.toList c i))
    | .ok (.record es) => return .ok (.data es)
    | .ok _ => return .error .notRecord
  | .null => return .ok (.entries [])
  | _ =>
    match ← k.entries? v with
    | some es => return .ok (.entries es)
    | none => return .ok (.attributes v)

/-! ## Conversion -/

mutual

/-- Converts a value. Inside a choice the conversion is strict: nothing passes through. -/
def convertAs (k : Surroundings m V C) (strict : Bool) (v : V) (t : TypeExpr) : m V :=
  match t with
  | .union as => convertFirst k v (as.map TypeExpr.format) as
  | .record fields => do
    match ← fieldSource k v with
    | .error reason => degrade k strict v t reason
    | .ok source => k.record (← convertFields k strict source fields)
  | .array element => do
    if let .null ← k.see v then return v
    match ← listItems? k v with
    | none => degrade k strict v t .notList
    | some items => k.list (← items.mapM fun item => convertAs k strict item element)
  | .generic name params => do
    if let .null ← k.see v then return v
    match ← k.constructor? name with
    | none => degrade k strict v t (.unknownGeneric name)
    | some c =>
      if ← k.accepts c v then return v
      match ← genericParts? k v params.length with
      | none => degrade k strict v t .notSplittable
      | some parts =>
        let args ← convertParts k strict parts params
        orDegrade k strict v t isBuildKind (.construction name) (k.build c args)
  | .scalar name => do
    if let .null ← k.see v then return v
    convertScalar k strict v name

/-- Converts a value by the first alternative that fits; `names` are those of all alternatives. -/
def convertFirst (k : Surroundings m V C) (v : V) (names : List String) (as : List TypeExpr) :
    m V :=
  match as with
  | [] => do throw (.about (.conversion · names) (← k.see v))
  | a :: as =>
    tryCatchThe Fault (convertAs k true v a) fun f => do
      k.note (.branchFailed a v f)
      convertFirst k v names as

/-- Converts the declared fields of a value. -/
def convertFields (k : Surroundings m V C) (strict : Bool) (source : FieldSource V)
    (fields : List (String × TypeExpr)) : m (List (String × V)) :=
  match fields with
  | [] => return []
  | (key, t) :: fs => do
    let v ← source.get k key
    let r ← convertAs k strict v t
    return (key, r) :: (← convertFields k strict source fs)

/-- Converts parts by the parameters at their places. -/
def convertParts (k : Surroundings m V C) (strict : Bool) (parts : List V)
    (params : List TypeExpr) : m (List V) :=
  match params with
  | [] => return []
  | t :: ts =>
    match parts with
    | [] => return []
    | p :: ps => do
      let r ← convertAs k strict p t
      return r :: (← convertParts k strict ps ts)

end

/-- Converts a value to a type. If `traced`, the conversion as a whole is noted too. -/
def convert (k : Surroundings m V C) (traced : Bool) (v : V) (t : TypeExpr) : m V := do
  let r ← convertAs k false v t
  if traced then k.note (.converted v t r)
  return r

end Conversion

end SceneBridge
