import SceneBridge.Proofs.ReentrantWorld

/-!
# Counting disposals

One adapter among code that may call it back at any time, as often and as deeply nested as it
likes. What is counted is how often it is disposed of, and how often it calls the method by which
its target frees what it holds.
-/

namespace SceneBridge

open Possibly

/-! ## The world -/

/-- An adapter, and what was counted so far. A disposal that finds no target is none. -/
structure FreeingWorld (V : Type) where
  element : ElementState (Item V) (Item V)
  state : AdapterState (Item V)
  /-- How many disposals have begun and have not come to their end. -/
  underway : Nat
  /-- How many disposals have begun. -/
  begun : Nat
  /-- How many of them began while another one was underway. -/
  nested : Nat
  /-- How many of them failed. -/
  failed : Nat
  /-- How often the adapter called the method that frees its target. -/
  freed : Nat

namespace FreeingWorld

variable {V : Type} [DecidableEq V]

/-- A disposal begins. -/
def enter (w : FreeingWorld V) : FreeingWorld V :=
  { w with
    underway := w.underway + 1
    begun := w.begun + 1
    nested := if 0 < w.underway then w.nested + 1 else w.nested }

/-- A disposal has come to its end. -/
def leave (w : FreeingWorld V) : Except Fault Unit → FreeingWorld V
  | .ok _ => { w with underway := w.underway - 1 }
  | .error _ => { w with underway := w.underway - 1, failed := w.failed + 1 }

/-- The method that frees the target is called. -/
def called (w : FreeingWorld V) : FreeingWorld V :=
  { w with freed := w.freed + 1 }

/-- The computation as a disposal, if there is a target. -/
def during (x : Possibly (FreeingWorld V) Unit) : Possibly (FreeingWorld V) Unit :=
  fun s e =>
    match s.state.target with
    | none => x s e
    | some _ => ∃ t, x s.enter (e.1, t) ∧ e.2 = t.leave e.1

/-! ## The adapter -/

section Adapter

variable (d : AdapterDefinition (Item V)) (code : Possibly (FreeingWorld V) Unit)

/-- The adapter without the steps from one of its operations to another. All that it asks of
others may call it back. -/
def bareAdapter : Adapter (Possibly (FreeingWorld V)) (Item V) (Item V) where
  definition := d
  element := {
    state := cell FreeingWorld.element fun s w => { w with element := s }
    nothing := .thing .nothing
    differs := fun _ _ => anything code
    setProperty := fun _ _ => pure ()
    requestUpdate := fun _ _ => pure ()
    update := fun _ => pure ()
    firstUpdated := fun _ => anything code
    updated := fun _ => anything code
    notify := fun _ _ => anything code }
  state := cell FreeingWorld.state fun s w => { w with state := s }
  self := .thing .adapter
  member := fun _ _ => anything code
  peek := fun _ _ => anything code
  setMember := fun _ _ _ => anything code
  convert := fun _ _ => anything code
  isNothing := (· = .thing .nothing)
  same := fun a b => a = b
  entries? := fun _ => anything code
  newRecord := fun _ => anything code
  isOpenRecord := fun _ => anything code
  setEntry := fun _ _ _ => anything code
  isCallable := fun _ => anything code
  call := fun _ _ _ => anything code
  textValue := fun s => .thing (.text s)
  handler := .handler
  dispatch := fun type _ =>
    announce (read (·.element.listeners)) (.thing (.text type)) fun _ => anything code
  disposeSelf := pure ()

/-- The adapter that notes the changes it is told of. -/
def notingAdapter : Adapter (Possibly (FreeingWorld V)) (Item V) (Item V) :=
  { bareAdapter d code with
    element := { (bareAdapter d code).element with
      requestUpdate := (bareAdapter d code).requestUpdate } }

/-- The adapter while it lets go of its target. Handlers are taken off by calls with two arguments;
the call without arguments is the one that frees the target. -/
def freeingAdapter : Adapter (Possibly (FreeingWorld V)) (Item V) (Item V) :=
  { notingAdapter d code with
    call := fun _ args _ => do
      if args.isEmpty then change called
      anything code }

/-- A disposal of the adapter. -/
def disposal : Possibly (FreeingWorld V) Unit :=
  during (freeingAdapter d code).dispose

/-- The adapter whose attributes set its properties and whose updates write to the target. -/
def adapter : Adapter (Possibly (FreeingWorld V)) (Item V) (Item V) :=
  { notingAdapter d code with
    element := { (notingAdapter d code).element with
      setProperty := (notingAdapter d code).setProperty
      update := fun changed => (notingAdapter d code).update (changed.map (·.1)) }
    disposeSelf := disposal d code }

end Adapter

/-! ## Operations -/

/-- What is asked of the adapter, by whoever works with it or by the code that it calls. -/
abbrev Operation (V : Type) := ReentrantWorld.Operation V

/-- What the operation does among code that does `code` when it is called. -/
def run (d : AdapterDefinition (Item V)) (code : Possibly (FreeingWorld V) Unit) :
    Operation V → Possibly (FreeingWorld V) Unit
  | .setAttribute attr text => (adapter d code).element.setAttribute attr text (.thing (.text text))
  | .removeAttribute attr => (adapter d code).element.removeAttribute attr
  | .setProperty name value => (adapter d code).setProperty name value
  | .readProperty name => do let _ ← (adapter d code).property name
  | .requestUpdate name old => (adapter d code).element.requestUpdate name old
  | .update names => (adapter d code).update names
  | .performUpdate => do let _ ← (adapter d code).element.performUpdate
  | .flush limit => do let _ ← (adapter d code).element.flush limit
  | .complete => do let _ ← (adapter d code).element.complete
  | .connect => (adapter d code).connected
  | .disconnect => (adapter d code).disconnected
  | .dispose => disposal d code
  | .forward binding args named => do let _ ← (adapter d code).forward binding args named
  | .bridge event detail => (adapter d code).bridge event detail
  | .dispatch type detail => (adapter d code).dispatch type detail
  | .adjust f => (adapter d code).element.state.modify f
  | .look => pure ()

/-- All that code outside may ask of the adapter if calls are nested to a depth. It may go on after
an operation that failed. -/
def behave (d : AdapterDefinition (Item V)) : (depth : Nat) → Possibly (FreeingWorld V) Unit
  | 0 => pure ()
  | n + 1 => often (choose fun op : Operation V => anything (run d (behave d n) op))

/-- What the operation may come to, however deeply code outside calls back. -/
def possibly (d : AdapterDefinition (Item V)) (op : Operation V) : Possibly (FreeingWorld V) Unit :=
  choose fun depth => run d (behave d depth) op

/-- Nothing was asked of the adapter yet. -/
structure IsNew (w : FreeingWorld V) : Prop where
  target : w.state.target ≠ none
  underway : w.underway = 0
  begun : w.begun = 0
  nested : w.nested = 0
  failed : w.failed = 0
  freed : w.freed = 0

end FreeingWorld

end SceneBridge
