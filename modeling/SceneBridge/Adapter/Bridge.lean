import SceneBridge.Adapter.Definition
import SceneBridge.Element.Batch

/-!
# Adapters

An adapter is an element with one target. What is written to its properties is
converted and written to the target by the next update; computed properties are
written at once. Methods are forwarded, and events of the target are dispatched by
the adapter once it was connected. An adapter that is disposed of has let go of its
target for good.

How members of the target are read, written and called is left open.
-/

namespace SceneBridge

/-- How far an adapter has come. -/
inductive AdapterPhase where
  /-- Nothing happened yet. -/
  | constructed
  /-- The events of the target are bridged. -/
  | bound
  /-- A change was noted since. -/
  | observed
  /-- The last changes were written to the target. -/
  | converted
  | disposed
deriving DecidableEq, Repr, Inhabited

/-- The name of a phase. -/
def AdapterPhase.name : AdapterPhase → String
  | constructed => "constructed"
  | bound => "bound"
  | observed => "observed"
  | converted => "converted"
  | disposed => "disposed"

/-- The state of an adapter besides that of an element. -/
structure AdapterState (V : Type) where
  phase : AdapterPhase
  /-- The handlers that are subscribed to events of the target. -/
  handlers : List (String × V)
  target : Option V
deriving Inhabited

/-- An adapter: its definition and state, and how targets are handled. -/
structure Adapter (m : Type → Type) (K V : Type) where
  definition : AdapterDefinition V
  element : Element m K V
  state : Cell m (AdapterState V)
  /-- The adapter as a value. -/
  self : V
  /-- A member of an object. -/
  member : V → String → m V
  /-- A member of an object; nothing if there is none. -/
  peek : V → String → m V
  setMember : V → String → V → m Unit
  convert : V → TypeExpr → m V
  isNothing : V → Bool
  /-- Are two values one object? -/
  same : V → V → Bool
  /-- The entries of a record. -/
  entries? : V → m (Option (List (String × V)))
  newRecord : List (String × V) → m V
  /-- Is the value a record whose entries can be set? -/
  isOpenRecord : V → m Bool
  setEntry : V → String → V → m Unit
  isCallable : V → m Bool
  call : V → List V → List (String × V) → m V
  textValue : String → V
  /-- The handler that bridges an event of the target. -/
  handler : String → V
  /-- Dispatches a new event of the adapter, with its type and its detail. -/
  dispatch : String → V → m Unit
  /-- Lets go of the target, as adapters of this kind do. -/
  disposeSelf : m Unit

namespace Adapter

variable {m : Type → Type} [Monad m] [MonadExceptOf Fault m] {K V : Type}

/-- The target; a fault after disposal. -/
def requireTarget (a : Adapter m K V) : m V := do
  match (← a.state.get).target with
  | some t => return t
  | none => throw (.disposed a.definition.className)

/-! ## Properties -/

/-- The value of a computed property. -/
def computed (a : Adapter m K V) (name : String) (info : ComputedInfo) : m V := do
  if !info.hasGetter then throw (.writeOnly name)
  a.member (← a.requireTarget) name

/-- Writes a computed property: the value is converted and written at once. -/
def setComputed (a : Adapter m K V) (name : String) (info : ComputedInfo) (value : V) :
    m Unit := do
  if !info.hasSetter then throw (.readOnly name)
  let target ← a.requireTarget
  let old ← if info.hasGetter then a.member target name else pure a.element.nothing
  let converted ← a.convert value info.type
  a.setMember target name converted
  a.element.requestUpdate name old

/-- The value of a property. -/
def property (a : Adapter m K V) (name : String) : m V :=
  match a.definition.metadata.computed.lookup name with
  | some info => a.computed name info
  | none => a.element.property name

/-- Sets a property. -/
def setProperty (a : Adapter m K V) (name : String) (value : V) : m Unit := do
  let _ ← a.requireTarget
  match a.definition.metadata.computed.lookup name with
  | some info => a.setComputed name info value
  | none => a.element.storeProperty name value

/-- Notes a change for the next batch. -/
def requestUpdate (a : Adapter m K V) (name : String) (old : V) : m Unit := do
  a.element.recordChange name old
  a.state.modify fun s =>
    if s.phase = .bound ∨ s.phase = .converted then { s with phase := .observed } else s

/-! ## Updates -/

/-- Writes the fields of a record into the record that the target has under a name. Fields
without a value are left as they are. -/
def mergeInto (a : Adapter m K V) (target : V) (name : String) (fields : List (String × V)) :
    m Unit := do
  let current ← a.peek target name
  if a.isNothing current then
    a.setMember target name (← a.newRecord fields)
  else
    fields.forM fun (key, value) => do
      if a.isNothing value then return
      if ← a.isOpenRecord current then a.setEntry current key value
      else a.setMember current key value

/-- Converts a changed property and writes it to the target. Returns the fault of a
conversion that failed; names that are no plain properties are passed over. -/
def applyChange (a : Adapter m K V) (target : V) (name : String) : m (Option Fault) := do
  match a.definition.metadata.properties.lookup name with
  | none => return none
  | some info =>
    if !a.definition.isAttribute name then return none
    let value ← a.element.property name
    let outcome ← tryCatchThe Fault (Except.ok <$> a.convert value info.type) fun f =>
      return .error f
    match outcome with
    | .error f => if f.kind = .conversion then return some f else throw f
    | .ok converted =>
      match info.type, ← a.entries? converted with
      | .record _, some fields => a.mergeInto target name fields
      | _, _ => a.setMember target name converted
      return none

/-- Writes a batch of changes to the target. A conversion that fails is reported after the
rest is written. -/
def update (a : Adapter m K V) (names : List String) : m Unit := do
  let target ← a.requireTarget
  let failures ← names.filterMapM (a.applyChange target)
  a.state.modify ({ · with phase := .converted })
  if let some f := failures.head? then throw f

/-! ## Events -/

/-- What the handler of an event does: the adapter dispatches an event of its own, with the
event of the target as its detail. -/
def bridge (a : Adapter m K V) (event : String) (detail : V) : m Unit :=
  a.dispatch (a.definition.eventPrefix ++ event) detail

/-- Subscribes a handler to every event of the target. -/
def bindEvents (a : Adapter m K V) (target : V) : m Unit := do
  if a.definition.metadata.events.isEmpty then return
  let subscribe ← a.peek target "on"
  if !(← a.isCallable subscribe) then return
  a.definition.metadata.events.forM fun (event, _) => do
    let handler := a.handler event
    let _ ← a.call subscribe [a.textValue event, handler] []
    a.state.modify fun s => { s with handlers := s.handlers ++ [(event, handler)] }

/-- How many handlers may come into the list while handlers are taken off. -/
@[irreducible]
def usualGrowth : Nat := 1000

/-- Takes all handlers off the target. Calls to the target may call the adapter back, which changes
the list of handlers. -/
def unbindEvents (a : Adapter m K V) (target : V) : m Unit := do
  let unsubscribe ← a.peek target "off"
  if ← a.isCallable unsubscribe then
    let limit := (← a.state.get).handlers.length + usualGrowth
    a.state.walk AdapterState.handlers (fun (event, handler) => do
      let _ ← a.call unsubscribe [a.textValue event, handler] []) 0 limit
  a.state.modify ({ · with handlers := [] })

/-! ## Life -/

/-- The adapter is in use from now on. -/
def connected (a : Adapter m K V) : m Unit := do
  let target ← a.requireTarget
  a.element.state.modify ({ · with isConnected := true })
  if (← a.state.get).phase = .constructed then
    a.bindEvents target
    a.state.modify ({ · with phase := .bound })

/-- Lets go of the target, and lets it free what it holds. -/
def dispose (a : Adapter m K V) : m Unit := do
  match (← a.state.get).target with
  | none => return
  | some target =>
    a.unbindEvents target
    let free ← a.peek target "dispose"
    if ← a.isCallable free then
      let _ ← a.call free [] []
    a.state.modify ({ · with target := none })
    a.state.modify ({ · with phase := .disposed })

/-- The adapter is no longer in use. -/
def disconnected (a : Adapter m K V) : m Unit := do
  a.element.state.modify ({ · with isConnected := false })
  a.disposeSelf

/-! ## Methods -/

/-- Calls a method of the target. -/
def forward (a : Adapter m K V) (binding : MethodBinding) (args : List V)
    (named : List (String × V)) : m V := do
  let target ← a.requireTarget
  let result ← a.call (← a.member target binding.name) args named
  return if binding.returnsOwner && a.same result target then a.self else result

end Adapter

end SceneBridge
