import SceneBridge.Library.Functions
import SceneBridge.Script.Evaluate
import SceneBridge.Script.Report

/-!
# Running scripts

Each step has an answer: what it returned, or why it failed. A script goes on after a
step that failed. Steps inside of callbacks and updates run like any other step; what
they log goes to the one log.
-/

namespace SceneBridge

/-- The path that an action works on. -/
def Action.on? : Action → Option Path
  | .call on .. | .get on _ | .set on .. | .getItem on _ | .setItem on .. | .length on
  | .truth on | .items on | .quote on | .plain on | .contains on _ | .value on | .names on
  | .describe on | .state on => some on
  | .new .. | .equal .. | .identical .. | .apply .. | .setEnvironment .. => none

namespace Act

/-! ## Actions -/

/-- A new object, and the steps that run while it updates. -/
def newByName (calls : Calls) (className : String) (args : List Literal)
    (named : List (String × Literal)) (onUpdate : List Step) : Act Value := do
  let c ← classNamed className
  let args ← evaluateAll calls args
  let v ← calls.call (.classRef c) args (← evaluateEntries calls named)
  if let .object p := v then
    change p fun e =>
      match e.body with
      | .element s _ => { e with body := .element s onUpdate }
      | _ => e
  return v

/-- Sets a text of the environment and loads the settings again. -/
def setEnvironment (name text : String) : Act Unit :=
  modify fun w =>
    let environment := Entries.put w.environment name text
    { w with environment, settings := Settings.load environment }

/-- The comparison of two values. Numbers and numeric values are compared by what they hold
even with themselves, and arrays cell by cell. -/
def comparison (a b : Value) : Act Value := do
  match ← see a, ← see b with
  | .array a, .array b =>
    if a.shape == b.shape then
      newArray ⟨a.shape, a.cells.zipWith (fun c c' => if c.equal c' then 1 else 0) b.cells⟩
    else fail (.basic .value "operands could not be broadcast together")
  | .value v k as, d => return .bool ((Datum.equal? (.value v k as) d).getD false)
  | .float x, d => return .bool ((Datum.equal? (.float x) d).getD false)
  | .single x, d => return .bool ((Datum.equal? (.single x) d).getD false)
  | _, _ => return .bool ((← equal? a b).getD false)

/-- What an action returns. -/
def act (calls : Calls) (action : Action) : Act Value := do
  match action with
  | .new className args named onUpdate => newByName calls className args named onUpdate
  | .call on name args named =>
    let v ← follow calls on
    let f ← if name == "__call__" then pure v else calls.member v name
    let args ← evaluateAll calls args
    calls.call f args (← evaluateEntries calls named)
  | .get on name => calls.member (← follow calls on) name
  | .set on name value =>
    let v ← follow calls on
    calls.setMember v name (← evaluate calls value)
    return .null
  | .getItem on key =>
    let v ← follow calls on
    item v (← evaluate calls key)
  | .setItem on key value =>
    let v ← follow calls on
    let key ← evaluate calls key
    setItem v key (← evaluate calls value)
    return .null
  | .length on => return .int (← length (← follow calls on))
  | .truth on => return .bool (← truth (← follow calls on))
  | .items on => newList (← items (← follow calls on))
  | .quote on => return .text (← quote (← follow calls on))
  | .plain on => return .text (← plain (← follow calls on))
  | .contains on item =>
    let v ← follow calls on
    return .bool (← contains v (← evaluate calls item))
  | .equal a b =>
    let a ← evaluate calls a
    comparison a (← evaluate calls b)
  | .identical a b =>
    let a ← evaluate calls a
    let b ← evaluate calls b
    return .bool ((← get).isOne a b)
  | .value on => follow calls on
  | .names on => newList ((← memberNames (← follow calls on)).map .text)
  | .apply name args named =>
    let args ← evaluateAll calls args
    applyFunction calls name args (← evaluateEntries calls named)
  | .setEnvironment name text =>
    setEnvironment name text
    return .null
  | .describe on | .state on => follow calls on

/-- What an action reports about the value that it returned. -/
def report (calls : Calls) (action : Action) (v : Value) : Act Report := do
  match action with
  | .describe _ => descriptionReport calls v
  | .state _ => stateReport calls v
  | _ => return .datum (← see v)

/-! ## Steps -/

/-- Binds a variable; a name that is bound already keeps its place. -/
def bind (name : String) (v : Value) : Act Unit :=
  modify fun w => { w with bindings := Entries.put w.bindings name v }

/-- The state of the element that an action works on, if it works on one. -/
def statusAfter (action : Action) : Act (Option Status) := do
  let w ← get
  return do
    let on ← action.on?
    w.status? (← w.bindings.lookup on.variable_)

/-- Runs a step. -/
def runStep (calls : Calls) : Step → Act StepAnswer
  | .mk action name? => do
    let outcome ← tryCatchThe Fault
      (do
        let v ← act calls action
        name?.forM (bind · v)
        return .ok (← report calls action v))
      fun f => return .error f
    return ⟨outcome, ← statusAfter action⟩

/-- Runs a step by itself, and returns what it logged too. -/
def runLogged (calls : Calls) (s : Step) : Act (StepAnswer × List LogEntry) := do
  modify ({ · with log := #[] })
  let answer ← runStep calls s
  return (answer, (← get).log.toList)

end Act

/-! ## Calls within calls -/

namespace Calls

/-- Calls are too deep. -/
def tooDeep {α : Type} : Act α :=
  Act.fail .tooDeep

/-- How values are called where calls can be `depth` deep. -/
def ofDepth : (depth : Nat) → Calls
  | 0 => ⟨fun _ _ _ => tooDeep, fun _ _ => tooDeep, fun _ _ _ => tooDeep, fun _ => tooDeep,
      fun _ => tooDeep⟩
  | n + 1 =>
    let inner := ofDepth n
    { call := Act.callValue inner
      member := Act.memberOf inner
      setMember := Act.setMemberOf inner
      evaluate := Act.evaluate inner
      run := fun steps => steps.mapM (Act.runStep inner) }

/-- How values are called. -/
def usual : Calls := ofDepth 1000

end Calls

end SceneBridge
