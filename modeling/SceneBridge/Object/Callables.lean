import SceneBridge.Component.Objects
import SceneBridge.Object.Members

/-!
# Calling

What happens when a value is called: a class makes an object, a method runs its code,
a callback of a script writes to the log and runs its steps.
-/

namespace SceneBridge.Act

/-! ## Callbacks -/

/-- Writes the answers to the steps of a callback into its entry of the log. -/
def answerCall (index : Nat) (answers : List StepAnswer) : Act Unit :=
  modify fun w => { w with
    log := w.log.modify index fun
      | .called listener argument _ => .called listener argument (some answers)
      | entry => entry }

/-- Calls a callback of a script. -/
def callListener (calls : Calls) (id : String) (arg : Value) : Act Value := do
  let spec := ((← get).listeners.lookup id).getD default
  let index := (← get).log.size
  log (.called id (← see arg) none)
  if !spec.steps.isEmpty then
    answerCall index (← calls.run spec.steps)
  if spec.fails then fail (.raised .runtime id)
  return .null

/-! ## Methods -/

/-- Calls the routine of a class on an object. -/
def callMethod (calls : Calls) (receiver : Value) (owner : ClassId) (name : String)
    (args : List Value) (named : List (String × Value)) : Act Value := do
  let i ← classInfo owner
  let callee := i.name ++ "." ++ name ++ "()"
  match i.members.lookup name with
  | some (.routine r) | some (.shared _ r) => runRoutine calls callee receiver r args named
  | some (.constant f) => calls.call f (receiver :: args) named
  | _ => fail (.notCallable name)

/-- Calls the routine of a class, the first argument being the object that it is called on. -/
def callRoutine (calls : Calls) (owner : ClassId) (name : String) (args : List Value)
    (named : List (String × Value)) : Act Value := do
  let i ← classInfo owner
  let callee := i.name ++ "." ++ name ++ "()"
  match i.members.lookup name, args with
  | some (.routine r), receiver :: args => runRoutine calls callee receiver r args named
  | some (.routine _), [] => fail (Arguments.missing callee "positional" ["self"])
  | some (.shared _ r), args => runRoutine calls callee .null r args named
  | _, _ => fail (.notCallable name)

/-- The only argument of a call. -/
def singleArgument (callee : String) (p : Param) (args : List Value)
    (named : List (String × Value)) : Act Value := do
  return (← ofExcept (Arguments.bind callee [p] args named)).get p.name

/-! ## Calls -/

/-- Calls what can be called besides classes. -/
def callCallable (calls : Calls) (f : Callable) (args : List Value)
    (named : List (String × Value)) : Act Value := do
  match f with
  | .method receiver owner name => callMethod calls receiver owner name args named
  | .routine owner name => callRoutine calls owner name args named
  | .listener id =>
    callListener calls id (← singleArgument "callback()" (.optional "arg" .null) args named)
  | .recorder tag =>
    let bound ← ofExcept (Arguments.bind "factory()" [.rest "args"] args named)
    new .product (.product tag bound.rest)
  | .forwarder place name => forwardCall calls place name args named
  | .bridge place event =>
    bridgeEvent calls place event
      (← singleArgument "handler()" (.optional "event" .null) args named)
  | .registering place name =>
    RegistryOperation.registerAs calls place name
      (← singleArgument "decorator()" (.needed "obj") args named)
  | .constructing place name layout factory =>
    let c ← singleArgument "decorator()" (.needed "cls") args named
    ConstructorOperation.defineClass calls place name layout factory c
  | .attached _ params _ =>
    discard (ofExcept (Arguments.bind "<lambda>()" (Param.ofNames params) args named))
    return .null

/-- Calls a value. -/
def callValue (calls : Calls) (f : Value) (args : List Value) (named : List (String × Value)) :
    Act Value := do
  match f with
  | .classRef c => newObject calls c args named
  | .callable f => callCallable calls f args named
  | .object p =>
    let w ← get
    let c := (w.entity p).class_
    match w.findMember? (w.info c).order "__call__" with
    | some (owner, _) => callMethod calls f owner "__call__" args named
    | none => fail (.notCallable (w.info c).name)
  | f => fail (.notCallable (← typeName f))

end SceneBridge.Act
