import SceneBridge.Object.Operations

/-!
# Running routines

What happens when the code of a routine runs, and how an object is made: the nearest
class that says how comes first, and hands over to the next one in the order of
inheritance.
-/

namespace SceneBridge.Act

/-! ## Statements -/

/-- The argument of a parameter, as the body of a routine sees it. -/
def argument (args : Arguments) (name : String) : Act Value := do
  if args.restName == some name then return .tuple args.rest
  else if args.namedName == some name then newRecord args.named
  else return args.get name

/-- The class of an object, or the class itself. -/
def ownClass (self : Value) : Act Value := do
  match self with
  | .object p => return .classRef (← entity p).class_
  | v => return v

/-- Runs statements until one of them returns. -/
def runStatements (calls : Calls) (self : Value) (args : Arguments) : List Statement → Act Value
  | [] => return .null
  | s :: rest => do
    match s with
    | .assign field source =>
      let v ← match source with
        | .param name => argument args name
        | .yes => pure (.bool true)
      calls.setMember self field v
      runStatements calls self args rest
    | .emit event params =>
      let emit ← calls.member self "emit"
      let data ← params.mapM fun p => do return (p, ← argument args p)
      discard (calls.call emit [.text event] data)
      runStatements calls self args rest
    | .fail text => fail (.raised .runtime text)
    | .returnSelf => return self
    | .returnNew => calls.call (← ownClass self) [] []
    | .returnParam name => argument args name
    | .returnValue l => calls.evaluate l

/-! ## Code -/

/-- Sets an attribute of a new object to what its class says. -/
def setField (calls : Calls) (self : Value) (names : List String) (v : FieldValue) : Act Unit := do
  let x ← match v, self with
    | .literal l, _ => calls.evaluate l
    | .routine params, .object p =>
      pure (.callable (.attached p params (← entity p).attributes.length))
    | .routine _, _ => pure .null
  names.forM fun name => calls.setMember self name x

/-- Runs the code of a routine. `makeBase` makes the object by the classes inherited from. -/
def runCode (calls : Calls) (self : Value) (args : Arguments) (makeBase : List Value → Act Unit)
    (code : Code) : Act Value := do
  match code with
  | .operation op => op.run ⟨calls, self, args, makeBase⟩
  | .statements body => runStatements calls self args body
  | .readField name => calls.member self name
  | .writeField name asNumber =>
    let v := args.get "value"
    if asNumber then calls.setMember self name (.float (← ofExcept (← see v).toFloat))
    else calls.setMember self name v
    return .null
  | .construct hasBases failure fields =>
    if hasBases then makeBase []
    if let some text := failure then fail (.raised .value text)
    fields.forM fun (names, v) => setField calls self names v
    return .null

/-- Runs code that makes no object. -/
def runPlainCode (calls : Calls) (self : Value) (args : Arguments) (code : Code) : Act Value :=
  runCode calls self args (fun _ => pure ()) code

/-- Runs a routine of a class. -/
def runRoutine (calls : Calls) (callee : String) (self : Value) (r : Routine) (args : List Value)
    (named : List (String × Value)) : Act Value := do
  runPlainCode calls self (← ofExcept (Arguments.bind callee r.params args named)) r.code

/-! ## New objects -/

/-- What a new object of a class of the library holds, if that is more than attributes. -/
def blankBody? : LibraryClass → Option Body
  | .element => some (.element .empty [])
  | .registry => some (.registry .empty)
  | .constructorTable => some (.constructors .empty)
  | .converter => some (.converter .null)
  | .cache => some (.cache .empty .null)
  | .factory => some (.factory .null .null .null [])
  | l =>
    match l.valueKind? with
    | some kind => if kind.isMatrix || kind == .color then none else some (.components kind [])
    | none => none

/-- What a new object of a class holds. -/
def blankBody (order : List ClassId) : Body :=
  (order.findSome? fun
    | .library l => blankBody? l
    | .custom _ => none).getD .plain

/-- Makes an object by the given classes: the first one that says how. -/
def makeBy (calls : Calls) (self : Value) (className : String) : List ClassId → List Value →
    List (String × Value) → Act Unit
  | [], args, named => do
    if !args.isEmpty || !named.isEmpty then
      fail (.basic .type (className ++ "() takes no arguments"))
  | c :: rest, args, named => do
    let i ← classInfo c
    match i.init with
    | none => makeBy calls self className rest args named
    | some r =>
      let bound ← ofExcept (Arguments.bind (i.name ++ ".__init__()") r.params args named)
      discard (runCode calls self bound (fun args => makeBy calls self className rest args []) r.code)

/-- A new object of a class. -/
def newObject (calls : Calls) (c : ClassId) (args : List Value) (named : List (String × Value)) :
    Act Value := do
  let i ← classInfo c
  let self := Value.object (← keep (.ofClass c (blankBody i.order)))
  makeBy calls self i.name i.order args named
  return self

end SceneBridge.Act
