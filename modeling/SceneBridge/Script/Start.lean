import SceneBridge.Convert.Plain
import SceneBridge.Script.Run

/-!
# The start of a script

The state in which every script starts: the usual upward direction, the constructors of
the numeric values with their table, and the usual converter, cache and factory.
-/

namespace SceneBridge

/-- The class of a kind of numeric value. -/
def ValueKind.classRef (kind : ValueKind) : Value :=
  .classRef (.library (.ofValueKind kind))

/-- What makes the values of a kind. -/
def ValueKind.factory (kind : ValueKind) : Value :=
  if kind.isMatrix then .callable (.method kind.classRef (.library .matrix) "from_array")
  else kind.classRef

/-- The constructor of a kind of numeric value. -/
def ValueKind.constructor (kind : ValueKind) : Entity :=
  { Entity.ofClass (.library .constructor) .plain with
    attributes := [("name", .text kind.name), ("factory", kind.factory),
      ("layout", .text kind.layout.name), ("value_class", kind.classRef)] }

/-- The table of the constructors of the numeric values. -/
def usualConstructors : ConstructorTable Value Value :=
  let places := ValueKind.all.mapIdx fun i kind => (kind, Place.firstConstructor + i)
  { registry := ⟨places.filterMap fun (kind, p) =>
      match Registry.key kind.name with
      | .ok key => some (key, .object p)
      | .error _ => none⟩
    byClass := places.map fun (kind, _) => (kind.classRef, kind.name) }

namespace World

/-- The objects that are always there, each at its place. -/
def usualObjects : Array Entity :=
  let table := Value.object Place.constructors
  #[.ofClass (.library .vector3) (.components .vector3 [0, 1, 0]),
    .ofClass (.library .constructorTable) (.constructors usualConstructors),
    .ofClass (.library .converter) (.converter table),
    { Entity.ofClass (.library .cache) (.cache .empty table) with
      attributes := [("extractions", .int 0)] },
    .ofClass (.library .factory)
      (.factory (.object Place.cache) (.object Place.converter) .null [])] ++
    (ValueKind.all.map ValueKind.constructor).toArray

/-- Equal texts and whole numbers are one object at first; what else may be there several times is a
new object wherever it is made. -/
def isKeptOnce : Value → Value → Bool
  | .text a, .text b => a == b
  | .int a, .int b => a == b
  | _, _ => false

/-- The state in which a script starts. -/
def start (environment : Environment) : World where
  environment
  settings := .load environment
  memo := .empty
  customs := #[]
  changedClasses := []
  store := usualObjects
  bindings := []
  listeners := []
  log := #[]
  components := .empty
  isShared := isKeptOnce

end World

namespace Act

/-- Defines the classes that a script describes. -/
def defineClasses (specs : List ClassSpec) : Act Unit :=
  specs.forM (defineClass .usual)

end Act

/-! ## Whole requests -/

/-- What can be seen of the value of a literal. -/
def datumOf (environment : Environment) (l : Literal) : Except Fault Datum :=
  let run : Act Datum := do Act.see (← Act.evaluate .usual l)
  (run.run.run (.start environment)).1

/-- Runs a script with its classes: the answer to each step, with what it logged. -/
def runScript (environment : Environment) (specs : List ClassSpec) (steps : List Step) :
    Except Fault (List (StepAnswer × List LogEntry)) :=
  let run : Act (List (StepAnswer × List LogEntry)) := do
    Act.defineClasses specs
    steps.mapM (Act.runLogged .usual)
  (run.run.run (.start environment)).1

/-- The metadata of a class by name. -/
def metadataOf (environment : Environment) (specs : List ClassSpec) (className : String) :
    Except Fault Report :=
  let run : Act Report := do
    Act.defineClasses specs
    let c ← Act.classNamed className
    let v ← Act.applyFunction .usual "metadata_for" [.classRef c] []
    Act.descriptionReport .usual v
  (run.run.run (.start environment)).1

/-- The notes behind the assignments of a class by name. -/
def notesOf (environment : Environment) (specs : List ClassSpec) (className : String) :
    Except Fault (List (String × String)) :=
  let run : Act (List (String × String)) := do
    Act.defineClasses specs
    return (← Act.classInfo (← Act.classNamed className)).notes
  (run.run.run (.start environment)).1

end SceneBridge
