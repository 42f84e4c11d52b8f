import SceneBridge.Proofs.AdapterWorld

/-!
# An adapter that is called back

One adapter among code that is not known and that knows the adapter: setters and methods of
the target, listeners, handlers and conversions may ask of the adapter whatever can be asked
of it, while it is busy with something else, as often and as deeply nested as they like.
-/

namespace SceneBridge

open Possibly

/-! ## The world -/

/-- An adapter, and what is worth noting of what happened so far. -/
structure ReentrantWorld (V : Type) where
  element : ElementState (Item V) (Item V)
  state : AdapterState (Item V)
  /-- How many updates and connections have begun and have not come to their end. -/
  underway : Nat
  /-- A disposal has returned. -/
  isFreed : Bool
  /-- A disposal has returned while an update or a connection was underway. -/
  isInterrupted : Bool
  /-- The phases that were read off the adapter after a disposal had returned. -/
  readings : List AdapterPhase

namespace ReentrantWorld

variable {V : Type} [DecidableEq V]

/-- The adapter in another phase. -/
def inPhase (w : ReentrantWorld V) (phase : AdapterPhase) : ReentrantWorld V :=
  { w with state := { w.state with phase } }

/-- An update or a connection begins. -/
def enter (w : ReentrantWorld V) : ReentrantWorld V :=
  { w with underway := w.underway + 1 }

/-- An update or a connection has come to its end. -/
def leave (w : ReentrantWorld V) : ReentrantWorld V :=
  { w with underway := w.underway - 1 }

/-- A disposal has returned. -/
def freed (w : ReentrantWorld V) : ReentrantWorld V :=
  { w with isFreed := true, isInterrupted := w.isInterrupted || decide (0 < w.underway) }

/-- The phase is read off the adapter. -/
def looked (w : ReentrantWorld V) : ReentrantWorld V :=
  if w.isFreed then { w with readings := w.readings ++ [w.state.phase] } else w

/-- The computation as an update or a connection. -/
def during {α : Type} (x : Possibly (ReentrantWorld V) α) : Possibly (ReentrantWorld V) α :=
  fun s e => ∃ t, x s.enter (e.1, t) ∧ e.2 = t.leave

/-! ## The adapter -/

section Adapter

variable (d : AdapterDefinition (Item V)) (code : Possibly (ReentrantWorld V) Unit)

/-- The adapter without the steps from one of its operations to another. All that it asks of
others may call it back. -/
def bareAdapter : Adapter (Possibly (ReentrantWorld V)) (Item V) (Item V) where
  definition := d
  element := {
    state := cell ReentrantWorld.element fun s w => { w with element := s }
    nothing := .thing .nothing
    differs := fun _ _ => anything code
    setProperty := fun _ _ => pure ()
    requestUpdate := fun _ _ => pure ()
    update := fun _ => pure ()
    firstUpdated := fun _ => anything code
    updated := fun _ => anything code
    notify := fun _ _ => anything code }
  state := cell ReentrantWorld.state fun s w => { w with state := s }
  self := .thing .adapter
  member := fun _ _ => anything code
  peek := fun _ _ => anything code
  setMember := fun _ _ _ => anything code
  convert := fun _ _ => anything code
  isNothing := (· = .thing .nothing)
  same := fun a b => a = b
  entries? := fun _ => anything code
  newRecord := fun _ => anything code
  isOpenRecord := fun _ => anything code
  setEntry := fun _ _ _ => anything code
  isCallable := fun _ => anything code
  call := fun _ _ _ => anything code
  textValue := fun s => .thing (.text s)
  handler := .handler
  dispatch := fun type _ =>
    announce (read (·.element.listeners)) (.thing (.text type)) fun _ => anything code
  disposeSelf := pure ()

/-- The adapter that notes the changes it is told of. -/
def notingAdapter : Adapter (Possibly (ReentrantWorld V)) (Item V) (Item V) :=
  { bareAdapter d code with
    element := { (bareAdapter d code).element with
      requestUpdate := (bareAdapter d code).requestUpdate } }

/-- An update of the adapter. -/
def update (names : List String) : Possibly (ReentrantWorld V) Unit :=
  during ((notingAdapter d code).update names)

/-- A disposal of the adapter. -/
def disposal : Possibly (ReentrantWorld V) Unit := do
  (notingAdapter d code).dispose
  change freed

/-- The adapter whose attributes set its properties and whose updates write to the target. -/
def adapter : Adapter (Possibly (ReentrantWorld V)) (Item V) (Item V) :=
  { notingAdapter d code with
    element := { (notingAdapter d code).element with
      setProperty := (notingAdapter d code).setProperty
      update := fun changed => update d code (changed.map (·.1)) }
    disposeSelf := disposal d code }

end Adapter

/-! ## Operations -/

/-- What is asked of the adapter, by whoever works with it or by the code that it calls. -/
inductive Operation (V : Type) where
  | setAttribute (attr text : String)
  | removeAttribute (attr : String)
  | setProperty (name : String) (value : Item V)
  | readProperty (name : String)
  | requestUpdate (name : String) (old : Item V)
  | update (names : List String)
  | performUpdate
  | flush (limit : Nat)
  | complete
  | connect
  | disconnect
  | dispose
  | forward (binding : MethodBinding) (args : List (Item V)) (named : List (String × Item V))
  /-- The handler of an event of the target is called. -/
  | bridge (event : String) (detail : Item V)
  | dispatch (type : String) (detail : Item V)
  /-- Something that changes no more than what the adapter keeps as an element. -/
  | adjust (f : ElementState (Item V) (Item V) → ElementState (Item V) (Item V))
  /-- The phase of the adapter is read. -/
  | look

namespace Operation

/-- What the operation does among code that does `code` when it is called. -/
def run (d : AdapterDefinition (Item V)) (code : Possibly (ReentrantWorld V) Unit) :
    Operation V → Possibly (ReentrantWorld V) Unit
  | setAttribute attr text => (adapter d code).element.setAttribute attr text (.thing (.text text))
  | removeAttribute attr => (adapter d code).element.removeAttribute attr
  | setProperty name value => (adapter d code).setProperty name value
  | readProperty name => do let _ ← (adapter d code).property name
  | requestUpdate name old => (adapter d code).element.requestUpdate name old
  | update names => ReentrantWorld.update d code names
  | performUpdate => do let _ ← (adapter d code).element.performUpdate
  | flush limit => do let _ ← (adapter d code).element.flush limit
  | complete => do let _ ← (adapter d code).element.complete
  | connect => during (adapter d code).connected
  | disconnect => (adapter d code).disconnected
  | dispose => disposal d code
  | forward binding args named => do let _ ← (adapter d code).forward binding args named
  | bridge event detail => (adapter d code).bridge event detail
  | dispatch type detail => (adapter d code).dispatch type detail
  | adjust f => (adapter d code).element.state.modify f
  | look => change looked

end Operation

/-- All that code outside may ask of the adapter if calls are nested to a depth. -/
def behave (d : AdapterDefinition (Item V)) : (depth : Nat) → Possibly (ReentrantWorld V) Unit
  | 0 => pure ()
  | n + 1 => often (choose fun op : Operation V => op.run d (behave d n))

/-- What the operation may come to, however deeply code outside calls back. -/
def Operation.possibly (d : AdapterDefinition (Item V)) (op : Operation V) :
    Possibly (ReentrantWorld V) Unit :=
  choose fun depth => op.run d (behave d depth)

/-- Nothing was asked of the adapter yet. -/
structure IsNew (w : ReentrantWorld V) : Prop where
  phase : w.state.phase = .constructed
  target : w.state.target ≠ none
  underway : w.underway = 0
  isFreed : w.isFreed = false
  isInterrupted : w.isInterrupted = false
  readings : w.readings = []

end ReentrantWorld

end SceneBridge
