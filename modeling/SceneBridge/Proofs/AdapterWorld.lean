import SceneBridge.Proofs.AdapterSteps

/-!
# An adapter and its target

One adapter among code that is not known: the code of the target, of the listeners, and of
whoever works with the target. Such code may register listeners with the target, take them
off, and raise events, all this as often and as deeply nested as it likes, but it knows
neither the adapter nor its handlers.
-/

namespace SceneBridge

open Possibly

/-! ## Values -/

/-- What code outside of the adapter knows of. -/
inductive Thing (V : Type) where
  | target
  /-- The method of the target that registers listeners. -/
  | on
  /-- The method of the target that takes listeners off. -/
  | off
  | adapter
  | nothing
  | text (s : String)
  /-- The event of the target that was raised after so many others. -/
  | event (id : Nat)
  | other (v : V)
deriving DecidableEq

/-- What the adapter knows of: there are its handlers besides. -/
inductive Item (V : Type) where
  /-- The handler that bridges an event of the target. -/
  | handler (event : String)
  | thing (t : Thing V)
deriving DecidableEq

/-- The event that a listener bridges. -/
def Item.bridged? {V : Type} : Item V → Option String
  | handler event => some event
  | thing _ => none

/-! ## The world -/

/-- An adapter, the listeners of its target, and what happened so far. -/
structure AdapterWorld (V : Type) where
  element : ElementState (Item V) (Item V)
  state : AdapterState (Item V)
  /-- Who listens to the target. -/
  listeners : Listeners (Item V) (Item V)
  /-- The types of the events that the target raised, in order. -/
  raised : List (Thing V)
  /-- The events that the adapter dispatched in order, each by its type and its detail. -/
  dispatched : List (String × Item V)

namespace AdapterWorld

variable {V : Type} [DecidableEq V]

/-- The events that the adapter dispatched for an event of the target. -/
def answers (w : AdapterWorld V) (id : Nat) : List (String × Item V) :=
  w.dispatched.filter (·.2 = .thing (.event id))

/-- The events whose handlers are registered for an event of the target. -/
def handled (w : AdapterWorld V) (event : Item V) : List String :=
  (w.listeners.of event).filterMap Item.bridged?

/-! ## The adapter -/

section Adapter

variable (d : AdapterDefinition (Item V))
variable (code : Possibly (AdapterWorld V) Unit)

/-- Code outside that returns a thing. -/
def outside : Possibly (AdapterWorld V) (Item V) :=
  Item.thing <$> anything code

/-- Dispatches an event of the adapter. -/
def dispatch (type : String) (detail : Item V) : Possibly (AdapterWorld V) Unit := do
  change fun w => { w with dispatched := w.dispatched ++ [(type, detail)] }
  announce (read (·.element.listeners)) (.thing (.text type)) fun _ => anything code

/-- The listeners of the target as a cell. -/
def listenersCell : Cell (Possibly (AdapterWorld V)) (Listeners (Item V) (Item V)) :=
  cell AdapterWorld.listeners fun ls w => { w with listeners := ls }

/-- Calls a value. The methods of the target that register listeners and take them off are
those of a source of events. -/
def call (f : Item V) (args : List (Item V)) : Possibly (AdapterWorld V) (Item V) :=
  match f, args with
  | .thing .on, [event, listener] => do
    listenersCell.modify (·.on event listener)
    return .thing .nothing
  | .thing .off, [event, listener] => do
    listenersCell.modify (·.off event listener)
    return .thing .nothing
  | _, _ => outside code

/-- The adapter without the steps from one of its operations to another. -/
def bareAdapter : Adapter (Possibly (AdapterWorld V)) (Item V) (Item V) where
  definition := d
  element := {
    state := cell AdapterWorld.element fun s w => { w with element := s }
    nothing := .thing .nothing
    differs := fun _ _ => anything code
    setProperty := fun _ _ => pure ()
    requestUpdate := fun _ _ => pure ()
    update := fun _ => pure ()
    firstUpdated := fun _ => pure ()
    updated := fun _ => pure ()
    notify := fun _ _ => anything code }
  state := cell AdapterWorld.state fun s w => { w with state := s }
  self := .thing .adapter
  member := fun _ _ => outside code
  peek := fun v name =>
    if v = .thing .target ∧ name = "on" then pure (.thing .on)
    else if v = .thing .target ∧ name = "off" then pure (.thing .off)
    else outside code
  setMember := fun _ _ _ => anything code
  convert := fun _ _ => outside code
  isNothing := (· = .thing .nothing)
  same := fun a b => a = b
  entries? := fun _ => anything code
  newRecord := fun _ => outside code
  isOpenRecord := fun _ => anything code
  setEntry := fun _ _ _ => anything code
  isCallable := fun v =>
    if v = .thing .on ∨ v = .thing .off then pure true else anything code
  call := fun f args _ => call code f args
  textValue := fun s => .thing (.text s)
  handler := .handler
  dispatch := dispatch code
  disposeSelf := pure ()

/-- The adapter that notes the changes it is told of. -/
def notingAdapter : Adapter (Possibly (AdapterWorld V)) (Item V) (Item V) :=
  { bareAdapter d code with
    element := { (bareAdapter d code).element with
      requestUpdate := (bareAdapter d code).requestUpdate } }

/-- The adapter whose attributes set its properties and whose updates write to the target. -/
def adapter : Adapter (Possibly (AdapterWorld V)) (Item V) (Item V) :=
  { notingAdapter d code with
    element := { (notingAdapter d code).element with
      setProperty := (notingAdapter d code).setProperty
      update := fun changed => (notingAdapter d code).update (changed.map (·.1)) }
    disposeSelf := (notingAdapter d code).dispose }

/-! ## Code outside -/

/-- Tells a listener of an event of the target. -/
def tell (id : Nat) : Item V → Possibly (AdapterWorld V) Unit
  | .handler event => (adapter d code).bridge event (.thing (.event id))
  | .thing _ => anything code

/-- The target raises an event. -/
def raise (event : Thing V) : Possibly (AdapterWorld V) Unit := do
  let id ← read (·.raised.length)
  change fun w => { w with raised := w.raised ++ [event] }
  announce (read (·.listeners)) (.thing event) (tell d code id)

end Adapter

/-- What code outside does to the world. -/
inductive Deed (V : Type) where
  | on (event listener : Thing V)
  | off (event listener : Thing V)
  | raise (event : Thing V)

/-- Does it, among code that does `code` when it is called. -/
def Deed.run (d : AdapterDefinition (Item V)) (code : Possibly (AdapterWorld V) Unit) :
    Deed V → Possibly (AdapterWorld V) Unit
  | on event listener => do let _ ← call code (.thing .on) [.thing event, .thing listener]
  | off event listener => do let _ ← call code (.thing .off) [.thing event, .thing listener]
  | raise event => AdapterWorld.raise d code event

/-- All that code outside may do if calls are nested to a depth. -/
def behave (d : AdapterDefinition (Item V)) : (depth : Nat) → Possibly (AdapterWorld V) Unit
  | 0 => pure ()
  | n + 1 => often (choose fun deed : Deed V => deed.run d (behave d n))

/-! ## Operations -/

/-- What is asked of the adapter, or done by others in between. -/
inductive Operation (V : Type) where
  | setAttribute (attr text : String)
  | removeAttribute (attr : String)
  | setProperty (name : String) (value : Thing V)
  | performUpdate
  | flush (limit : Nat)
  | connect
  | forward (binding : MethodBinding) (args : List (Thing V)) (named : List (String × Thing V))
  /-- A listener to an event of the adapter. -/
  | listen (event listener : Thing V)
  /-- A subscriber to the updates of the adapter. -/
  | subscribe (listener : Thing V)
  /-- What others do with the target. -/
  | elsewhere

namespace Operation

/-- May the operation hand out a batch of changes? -/
def isUpdate : Operation V → Bool
  | performUpdate | flush _ => true
  | _ => false

/-- What the operation does among code that does `code` when it is called. -/
def run (d : AdapterDefinition (Item V)) (code : Possibly (AdapterWorld V) Unit) :
    Operation V → Possibly (AdapterWorld V) Unit
  | setAttribute attr text => (adapter d code).element.setAttribute attr text (.thing (.text text))
  | removeAttribute attr => (adapter d code).element.removeAttribute attr
  | setProperty name value => (adapter d code).setProperty name (.thing value)
  | performUpdate => do let _ ← (adapter d code).element.performUpdate
  | flush limit => do let _ ← (adapter d code).element.flush limit
  | connect => (adapter d code).connected
  | forward binding args named => do
    let _ ← (adapter d code).forward binding (args.map .thing)
      (named.map fun (name, v) => (name, .thing v))
  | listen event listener => (adapter d code).element.state.modify fun s =>
    { s with listeners := s.listeners.append (.thing event) (.thing listener) }
  | subscribe listener => (adapter d code).element.state.modify fun s =>
    { s with subscribers := s.subscribers ++ [.thing listener] }
  | elsewhere => code

/-- What the operation may come to, however deeply code outside nests its calls. -/
def possibly (d : AdapterDefinition (Item V)) (op : Operation V) : Possibly (AdapterWorld V) Unit :=
  choose fun depth => op.run d (behave d depth)

end Operation

/-- The operations one after another, whether or not one of them fails. -/
inductive Runs (d : AdapterDefinition (Item V)) :
    List (Operation V) → AdapterWorld V → AdapterWorld V → Prop where
  | nil (w : AdapterWorld V) : Runs d [] w w
  | cons {op : Operation V} {ops : List (Operation V)} {u v w : AdapterWorld V}
      {outcome : Except Fault Unit} (h : op.possibly d u (outcome, v)) (hrest : Runs d ops v w) :
      Runs d (op :: ops) u w

/-- Nothing was asked of the adapter yet, and nobody dispatched or bridged an event. -/
structure IsFresh (w : AdapterWorld V) : Prop where
  phase : w.state.phase = .constructed
  target : w.state.target = some (.thing .target)
  handled : ∀ event, w.handled event = []
  dispatched : w.dispatched = []

end AdapterWorld

end SceneBridge
