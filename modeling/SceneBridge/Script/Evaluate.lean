import SceneBridge.Script.ClassSpec

/-!
# Literals

From the values that a script writes down to values. Lists, records and arrays are new
objects each time; tokens, recording functions and callbacks are one for each name.
-/

namespace SceneBridge.Act

/-- The value of a variable and of the attributes read from it. -/
def follow (calls : Calls) (p : Path) : Act Value := do
  match ((← get).bindings.lookup p.variable_ : Option Value) with
  | some v => p.attributes.foldlM calls.member v
  | none => fail (.unbound p.variable_)

/-- Makes a callback known, unless its name is known already. -/
def defineListener (id : String) (spec : ListenerSpec) : Act Unit :=
  modify fun w =>
    if Entries.has w.listeners id then w else { w with listeners := w.listeners ++ [(id, spec)] }

mutual

/-- The value of a literal. -/
def evaluate (calls : Calls) (l : Literal) : Act Value := do
  match l with
  | .null => return .null
  | .bool b => return .bool b
  | .int n => return .int n
  | .float x => return .float x
  | .single x => return .single x
  | .flag b => return .flag b
  | .text s => return .text s
  | .list ls => newList (← evaluateAll calls ls)
  | .tuple ls => return .tuple (← evaluateAll calls ls)
  | .record es => newRecord (← evaluateEntries calls es)
  | .array a => newArray a
  | .bundle es => newPlain .bundle (← evaluateEntries calls es)
  | .new name args => do
    let c ← classNamed name
    calls.call (.classRef c) (← evaluateAll calls args) []
  | .classRef name => return .classRef (← classNamed name)
  | .type t => return .type t
  | .token name => return .token name
  | .recorder tag => return .callable (.recorder tag)
  | .event type detail => do
    let type ← evaluate calls type
    let detail ← evaluate calls detail
    calls.call (.classRef (.library .elementEvent)) [] [("type", type), ("detail", detail)]
  | .ref p => follow calls p
  | .listener id steps fails => do
    defineListener id ⟨steps, fails⟩
    return .callable (.listener id)

/-- The values of some literals. -/
def evaluateAll (calls : Calls) (ls : List Literal) : Act (List Value) := do
  match ls with
  | [] => return []
  | l :: ls => return (← evaluate calls l) :: (← evaluateAll calls ls)

/-- The values of named literals. -/
def evaluateEntries (calls : Calls) (es : List (String × Literal)) :
    Act (List (String × Value)) := do
  match es with
  | [] => return []
  | (k, l) :: es => return (k, ← evaluate calls l) :: (← evaluateEntries calls es)

end

end SceneBridge.Act
