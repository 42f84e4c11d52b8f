import SceneBridge.Convert.Conversion
import SceneBridge.Object.Items

/-!
# Constructors and converters as objects

Constructors build values by name; a table keeps them, also by the class of the values.
A converter turns values into what a type asks for, with the constructors of its table.
-/

namespace SceneBridge

namespace Act

/-- Reads a type text, remembering the reading. -/
def readType (text : String) : Act TypeExpr := do
  let w ← get
  discard (ofExcept w.settings.typeReader)
  let (t, memo) := w.memo.read w.settings.cacheLimit w.settings.naiveUnions text
  set { w with memo }
  return t

/-- How type texts are read at the moment; the table of readings is ready then. -/
def typeReader : Act (String → TypeExpr) := do
  let w ← get
  let read ← ofExcept w.settings.typeReader
  set { w with memo := ⟨some (w.memo.tableFor w.settings.cacheLimit)⟩ }
  return read

/-- Is a value an object of a class? -/
def isInstance (v c : Value) : Act Bool := do
  match c with
  | .classRef c =>
    match v with
    | .object p =>
      let w ← get
      return (w.info (w.entity p).class_).order.contains c
    | _ => return false
  | _ => fail (.basic .type "isinstance() arg 2 must be a type")

/-- The items of a list or a tuple. -/
def listOrTuple? (v : Value) : Act (Option (List Value)) := do
  match v, ← body v with
  | .tuple vs, _ => return some vs
  | _, .list vs => return some vs
  | _, _ => return none

/-- The entries of a record. -/
def recordEntries? (v : Value) : Act (Option (List (String × Value))) := do
  match ← body v with
  | .record es | .view es => return some es
  | _ => return none

end Act

open Act

namespace Conversion

/-- Does a constructor make values like this one? -/
def acceptsValue (calls : Calls) (constructor v : Value) : Act Bool := do
  let c ← calls.member constructor "value_class"
  if c.isNull then return false
  isInstance v c

/-- How values are converted with the constructors of a table. -/
def objectSurroundings (calls : Calls) (table : Value) : Surroundings Act Value Value where
  see := see
  ofDatum := ofDatum
  items? := listOrTuple?
  entries? := recordEntries?
  memberOf := calls.peek
  textOf := plain
  list := newList
  record := newRecord
  constructor? name := do
    let c ← calls.send table "lookup" [.text name]
    return if c.isNull then none else some c
  layout c := do
    return match ← calls.member c "layout" with
      | .text s => (Layout.ofName? s).getD .positional
      | _ => .positional
  accepts := acceptsValue calls
  build c args := do calls.call (← calls.member c "factory") args []
  note _ := pure ()

end Conversion

namespace ConstructorOperation

/-! ## Tables -/

/-- Is the datum the name of a layout? -/
def isLayoutName : Datum → Bool
  | .text s => (Layout.ofName? s).isSome
  | _ => false

/-- A new constructor, registered in a table. -/
def defineAs (place : Nat) (name factory layout valueClass : Value) : Act Value := do
  let l ← see layout
  if !isLayoutName l then fail (.about .unknownLayout l)
  let c ← newPlain .constructor
    [("name", name), ("factory", factory), ("layout", layout), ("value_class", valueClass)]
  let cell := constructorsOf place
  let byClass := if !valueClass.isNull && (← isKey valueClass) then some valueClass else none
  cell.set (← ofExcept ((← cell.get).define (!·.isNull) (← see name) c byClass))
  discard (key valueClass)
  return c

/-- Registers what makes the values of a class: the class itself, or a member of it. -/
def defineClass (calls : Calls) (place : Nat) (name layout factory c : Value) : Act Value := do
  let make ← if ← truth factory then
      match factory with
      | .text s => calls.member c s
      | _ => fail (.basic .type "attribute name must be string")
    else pure c
  let name ← if ← truth name then pure name else calls.member c "__name__"
  let define ← calls.member (.object place) "define"
  discard (calls.call define [name, make] [("layout", layout), ("value_class", c)])
  return c

/-- The class of the values of a constructor, if there is one and it says so. -/
def valueClassOf (calls : Calls) (c? : Option Value) : Act (Option Value) := do
  let c := c?.getD .null
  if c.isNull then return none
  let valueClass ← calls.member c "value_class"
  return if valueClass.isNull then none else some valueClass

/-- The table of a converter. -/
def converterTable (i : Invocation) : Act Value := do
  match ← body i.self with
  | .converter table => return table
  | _ => fail (.noAttribute (← typeName i.self) "_registry")

/-! ## Operations -/

/-- What an operation does. -/
def run (op : ConstructorOperation) (i : Invocation) : Act Value := do
  let calls := i.calls
  let cell := constructorsOf i.place
  match op with
  | .makeTable =>
    cell.set .empty
    return .null
  | .define =>
    defineAs i.place (i.arg "name") (i.arg "factory") (i.arg "layout") (i.arg "value_class")
  | .valueType =>
    return .callable (.constructing i.place (i.arg "name") (i.arg "layout") (i.arg "factory"))
  | .nameFor =>
    match i.arg "klass" with
    | .classRef c =>
      let order := (← classInfo c).order.map Value.classRef
      return (((← cell.get).nameFor? order).map Value.text).getD .null
    | v => fail (.noAttribute (← typeName v) "__mro__")
  | .remove =>
    let name ← see (i.arg "name")
    let valueClass ← valueClassOf calls ((← cell.get).registry.lookup? name)
    cell.set (← ofExcept ((← cell.get).remove name valueClass))
    return .null
  | .clear =>
    cell.set .empty
    return .null
  | .accepts => return .bool (← Conversion.acceptsValue calls i.self (i.arg "value"))
  | .construct => calls.call (← calls.member i.self "factory") i.args.rest []
  | .fromComponents =>
    let parts ← items (i.arg "components")
    let factory ← calls.member i.self "factory"
    match ← calls.member i.self "layout" with
    | .text "flat" => calls.call factory [← newList parts] []
    | _ => calls.call factory parts []
  | .fromValue =>
    Conversion.buildValue (Conversion.objectSurroundings calls .null) i.self (i.arg "value")
  | .makeConverter =>
    let table := if (i.arg "registry").isNull then .object Place.constructors else i.arg "registry"
    change i.place ({ · with body := .converter table })
    return .null
  | .converterRegistry => converterTable i
  | .convert =>
    let v := i.arg "value"
    match i.arg "type_" with
    | .type t => convertTo i v t
    | .text s => convertTo i v (← readType s)
    | _ => return v
where
  /-- Converts a value with the table of the converter. -/
  convertTo (i : Invocation) (v : Value) (t : TypeExpr) : Act Value := do
    let k := Conversion.objectSurroundings i.calls (← converterTable i)
    Conversion.convert k false v t

end ConstructorOperation

end SceneBridge
