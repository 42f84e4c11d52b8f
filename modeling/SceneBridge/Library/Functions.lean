import SceneBridge.Object.Callables
import SceneBridge.Values.Colour

/-!
# Functions

The functions that are called by name and not on an object.
-/

namespace SceneBridge

open Act

/-- The functions of the library. -/
inductive LibraryFunction where
  -- types and conversion
  | readType | writeType | convert
  | cacheSize | clearCache
  -- reflection
  | metadata | notes
  -- adapters and components
  | build
  | defineDefaults | define | component | tags | isDefined | create | defaultTag | clearTags
  -- numeric values
  | valueTypes | valueType | isValueType | readColour
  | quaternionOfEuler | matrix3OfArray | matrix4OfArray | compose
  -- settings
  | reload
deriving DecidableEq, Repr

namespace LibraryFunction

/-- The functions by the names that scripts use. -/
def names : List (String × LibraryFunction) := [
  ("parse_type", readType), ("format_type", writeType), ("convert_value", convert),
  ("parse_cache_maxsize", cacheSize), ("clear_parse_cache", clearCache),
  ("metadata_for", metadata), ("attribute_docs", notes), ("build", build),
  ("define_defaults", defineDefaults), ("define_component", define),
  ("get_component", component), ("list_components", tags),
  ("is_component_defined", isDefined), ("create_element", create), ("default_tag", defaultTag),
  ("clear_components", clearTags), ("list_value_types", valueTypes),
  ("get_value_type", valueType), ("is_value_type", isValueType),
  ("parse_hex_color_str", readColour), ("Quaternion.from_euler", quaternionOfEuler),
  ("Matrix3.from_array", matrix3OfArray), ("Matrix4.from_array", matrix4OfArray),
  ("Matrix4.compose", compose), ("reload_from_env", reload)]

/-- The parameters of a function. -/
def params : LibraryFunction → List Param
  | readType => [.needed "type_string"]
  | writeType => [.needed "descriptor"]
  | convert => [.needed "value", .needed "type_"]
  | cacheSize | clearCache | defineDefaults | tags | clearTags | valueTypes | reload => []
  | metadata | build | defaultTag => [.needed "cls"]
  | notes => [.needed "klass"]
  | define => [.needed "cls", .optional "tag" .null, (Param.optional "factory" .null).byName]
  | component | isDefined => [.needed "tag"]
  | create => [.needed "tag", .namedRest "attributes"]
  | valueType | isValueType => [.needed "name"]
  | readColour => [.needed "s"]
  | quaternionOfEuler => [.needed "euler"]
  | matrix3OfArray | matrix4OfArray => [.needed "values"]
  | compose => [.needed "position", .needed "rotation", .needed "scale"]

/-- Calls a routine of a class. -/
def onClass (calls : Calls) (l : LibraryClass) (name : String) (args : List Value) : Act Value :=
  calls.send (.classRef (.library l)) name args

/-- The names of the numeric values in alphabetical order. -/
def valueTypeNames (calls : Calls) : Act Value := do
  let names ← (← (registryOf Place.constructors).get).values.mapM fun c => do
    plain (← calls.member c "name")
  newList (names.mergeSort.map .text)

/-- The notes of a class as a record. -/
def notesOf (c : Value) : Act Value := do
  match c with
  | .classRef c => newRecord ((← classInfo c).notes.map fun (k, note) => (k, .text note))
  | v => fail (.noAttribute (← typeName v) "__qualname__")

/-- The limit of the table of type readings. -/
def memoLimit : Act Value := do
  let w ← get
  return .int (w.memo.limit?.getD w.settings.cacheLimit)

/-- The channels of a colour text. -/
def colourOf (text : Value) : Act Value := do
  match text with
  | .text s => return .tuple ((← ofExcept (Colour.ofHex s.toList)).map .float)
  | v => fail (.noAttribute (← typeName v) "strip")

/-- What a function does. -/
def run (f : LibraryFunction) (calls : Calls) (args : Arguments) : Act Value := do
  match f with
  | readType => return .type (← Act.readType (← plain (args.get "type_string")))
  | writeType =>
    match args.get "descriptor" with
    | .type t => return .text t.format
    | v => return .text (← plain v)
  | convert => calls.send (.object Place.converter) "convert" [args.get "value", args.get "type_"]
  | cacheSize => memoLimit
  | clearCache =>
    modify fun w => { w with memo := w.memo.clear }
    return .null
  | metadata => calls.send (.object Place.cache) "metadata_for" [args.get "cls"]
  | notes => notesOf (args.get "klass")
  | build => calls.send (.object Place.factory) "build" [args.get "cls"]
  | defineDefaults => Act.defineDefaults calls
  | define => defineComponent calls (args.get "cls") (args.get "tag") (args.get "factory")
  | component => componentOf (args.get "tag")
  | tags => componentTags calls
  | isDefined =>
    return .bool (((← components.get).lookup? (← see (args.get "tag"))).any (!·.isNull))
  | create => createElement calls (args.get "tag") args.named
  | defaultTag => Act.defaultTag calls (args.get "cls")
  | clearTags =>
    components.set .empty
    return .null
  | valueTypes => valueTypeNames calls
  | valueType => calls.send (.object Place.constructors) "get" [args.get "name"]
  | isValueType => calls.send (.object Place.constructors) "is_registered" [args.get "name"]
  | readColour => colourOf (args.get "s")
  | quaternionOfEuler => onClass calls .quaternion "from_euler" [args.get "euler"]
  | matrix3OfArray => onClass calls .matrix3 "from_array" [args.get "values"]
  | matrix4OfArray => onClass calls .matrix4 "from_array" [args.get "values"]
  | compose =>
    onClass calls .matrix4 "compose" [args.get "position", args.get "rotation", args.get "scale"]
  | reload =>
    modify fun w => { w with settings := Settings.load w.environment }
    return .null

end LibraryFunction

/-- Calls a function of the library by name. -/
def Act.applyFunction (calls : Calls) (name : String) (args : List Value)
    (named : List (String × Value)) : Act Value := do
  match LibraryFunction.names.lookup name with
  | some f => f.run calls (← ofExcept (Arguments.bind (name ++ "()") f.params args named))
  | none => fail (.unbound name)

end SceneBridge
