import SceneBridge.Object.See

/-!
# Arguments

Which argument reaches which parameter: positions first, then names, then defaults.
What is left over goes to the parameters that take the rest, or is a fault.
-/

namespace SceneBridge

/-- The arguments of a call by parameter. -/
structure Arguments where
  values : List (String × Value)
  /-- Further arguments, with the name of the parameter that takes them. -/
  rest : List Value
  restName : Option String
  /-- Further named arguments, with the name of the parameter that takes them. -/
  named : List (String × Value)
  namedName : Option String
deriving Inhabited

namespace Arguments

/-- No arguments. -/
def none : Arguments := ⟨[], [], .none, [], .none⟩

/-- The argument of a parameter. -/
def get (a : Arguments) (name : String) : Value :=
  (a.values.lookup name).getD .null

/-- Names in quotes, the last one after the word for both. -/
def nameList : List String → String
  | [] => ""
  | [a] => "'" ++ a ++ "'"
  | [a, b] => "'" ++ a ++ "' and '" ++ b ++ "'"
  | names =>
    String.join ((names.dropLast).map fun n => "'" ++ n ++ "', ") ++
      "and '" ++ names.getLastD "" ++ "'"

/-- Parameters without an argument. -/
def missing (callee : String) (kind : String) (names : List String) : Fault :=
  .basic .type (callee ++ " missing " ++ toString names.length ++ " required " ++ kind ++
    " argument" ++ (if names.length == 1 then "" else "s") ++ ": " ++ nameList names)

/-- Gives arguments to parameters in order. Returns what is given and what is left. -/
def byPosition : List Param → List Value → List (String × Value) × List Value
  | [], args => ([], args)
  | _, [] => ([], [])
  | p :: ps, a :: args =>
    if p.kind = .plain then
      let (given, left) := byPosition ps args
      ((p.name, a) :: given, left)
    else byPosition ps (a :: args)

/-- Gives arguments to parameters by name. Returns what is given and what is left. -/
def byName (params : List Param) (given : List (String × Value)) :
    List (String × Value) → Except Fault (List (String × Value) × List (String × Value))
  | [] => .ok (given, [])
  | (name, a) :: named =>
    if params.any fun p => p.name == name && (p.kind = .plain || p.kind = .named) then
      if Entries.has given name then
        .error (.basic .type ("got multiple values for argument '" ++ name ++ "'"))
      else byName params (given ++ [(name, a)]) named
    else do
      let (given, left) ← byName params given named
      return (given, (name, a) :: left)

/-- The arguments by parameter of a call. -/
def bind (callee : String) (params : List Param) (args : List Value)
    (named : List (String × Value)) : Except Fault Arguments := do
  let (given, rest) := byPosition params args
  let (given, left) ← byName params given named
  let restName := (params.find? (·.kind = .rest)).map (·.name)
  let namedName := (params.find? (·.kind = .namedRest)).map (·.name)
  if !left.isEmpty && namedName.isNone then
    throw (.basic .type (callee ++ " got an unexpected keyword argument"))
  if !rest.isEmpty && restName.isNone then
    throw (.basic .type (callee ++ " takes fewer positional arguments"))
  let open_ (kind : ParamKind) : List String :=
    (params.filter fun p => p.kind = kind && p.default.isNone && !Entries.has given p.name).map
      (·.name)
  if !(open_ .plain).isEmpty then throw (missing callee "positional" (open_ .plain))
  if !(open_ .named).isEmpty then throw (missing callee "keyword-only" (open_ .named))
  let defaults := params.filterMap fun p =>
    if Entries.has given p.name then .none else p.default.map (p.name, ·)
  return ⟨given ++ defaults, rest, restName, left, namedName⟩

end Arguments

/-- A call of an operation: how everything else is called, the object that the operation
works on, its arguments, and how an object is made by the classes inherited from. -/
structure Invocation where
  calls : Calls
  self : Value
  args : Arguments
  makeBase : List Value → Act Unit

namespace Invocation

/-- The place of the object that the operation works on. -/
def place (i : Invocation) : Nat :=
  match i.self with
  | .object p => p
  | _ => 0

/-- The argument of a parameter. -/
def arg (i : Invocation) (name : String) : Value :=
  i.args.get name

/-- An argument as a double. -/
def float (i : Invocation) (name : String) : Act Float := do
  ofExcept (Datum.toFloat (← Act.see (i.arg name)))

end Invocation

end SceneBridge
