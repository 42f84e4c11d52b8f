import SceneBridge.Proofs.ElementWorld

/-!
# An element whose hooks settle

One element among code that is not known: its hooks, its subscribers, and what compares values. Such
code may write properties and attributes, ask for updates and change who is subscribed, as often and
as deeply nested as it likes, but it hands out no batch itself. Subscribers and comparisons may
fail; hooks deal with what fails in them. Calls and subscriptions are kept as a history.
-/

namespace SceneBridge

open Possibly

/-! ## The history -/

/-- Something that happened to an element. -/
inductive Happening (V : Type) where
  /-- A hook was called with a batch. -/
  | called (hook : Hook) (batch : List (String × V))
  /-- A subscriber was told the names of a batch. -/
  | told (subscriber : V) (names : List String)
  | subscribed (listener : V)
  | unsubscribed (listener : V)

namespace Happening

variable {V : Type}

/-- Was a hook or a subscriber called? -/
def isCall : Happening V → Bool
  | called _ _ | told _ _ => true
  | subscribed _ | unsubscribed _ => false

/-- The batch that the hook was called with. -/
def batch? (hook : Hook) : Happening V → Option (List (String × V))
  | called other batch => if other = hook then some batch else none
  | _ => none

/-- The subscriptions after it. -/
def subscribers [BEq V] (listeners : List V) : Happening V → List V
  | subscribed listener => listeners ++ [listener]
  | unsubscribed listener => listeners.erase listener
  | _ => listeners

end Happening

/-- The batches that the hook was called with, in order. -/
def batches {V : Type} (hook : Hook) (history : List (Happening V)) : List (List (String × V)) :=
  history.filterMap (Happening.batch? hook)

/-- Who is subscribed after all that happened, once for each subscription. -/
def subscribed {V : Type} [BEq V] (history : List (Happening V)) : List V :=
  history.foldl Happening.subscribers []

/-- An element, and what happened to it so far. -/
structure HookWorld (V : Type) where
  state : ElementState V V
  history : List (Happening V)

namespace HookWorld

variable {V : Type}

/-- The world with one more thing that happened. -/
def note (w : HookWorld V) (h : Happening V) : HookWorld V :=
  { w with history := w.history ++ [h] }

/-- A new element. -/
def fresh : HookWorld V := ⟨.empty, []⟩

/-! ## The element -/

/-- The state of the element as a cell. -/
def stateCell : Cell (Possibly (HookWorld V)) (ElementState V V) :=
  cell HookWorld.state fun s w => { w with state := s }

section Element

variable (nothing : V) (code : Possibly (HookWorld V) Unit)

/-- A hook is called, which is noted, and deals with what fails in it. -/
def hooked (hook : Hook) (batch : List (String × V)) : Possibly (HookWorld V) Unit := do
  change (·.note (.called hook batch))
  tryCatchThe Fault code fun _ => pure ()

/-- The element without the steps from one of its operations to another. -/
def bareElement : Element (Possibly (HookWorld V)) V V where
  state := stateCell
  nothing := nothing
  differs := fun _ _ => anything code
  setProperty := fun _ _ => pure ()
  requestUpdate := fun _ _ => pure ()
  update := hooked code .update
  firstUpdated := hooked code .firstUpdated
  updated := hooked code .updated
  notify := fun subscriber names => do
    change (·.note (.told subscriber names))
    anything code

/-- The element that notes the changes it is told of. -/
def notingElement : Element (Possibly (HookWorld V)) V V :=
  { bareElement nothing code with requestUpdate := (bareElement nothing code).recordChange }

/-- The element. -/
def element : Element (Possibly (HookWorld V)) V V :=
  { notingElement nothing code with setProperty := (notingElement nothing code).storeProperty }

end Element

/-! ## Operations -/

/-- What the code of hooks and subscribers may do with the element. -/
inductive Deed (V : Type) where
  | setProperty (name : String) (value : V)
  | setAttribute (attr text : String)
  | removeAttribute (attr : String)
  | requestUpdate (name : String) (old : V)
  | declare (name : String) (attr : Option String)
  | subscribe (listener : V)
  | unsubscribe (listener : V)
  /-- Who listens to its events, and whether it is connected. -/
  | arrange (listeners : Listeners V V) (isConnected : Bool)

/-- What is done with an element by others. -/
inductive HookOperation (V : Type) where
  | deed (d : Deed V)
  | performUpdate
  | flush (limit : Int)
  | complete

section Operation

variable [BEq V] (nothing : V) (textValue : String → V)

/-- Does it, among code that does `code` when it is called. -/
def Deed.run (code : Possibly (HookWorld V) Unit) : Deed V → Possibly (HookWorld V) Unit
  | setProperty name value => (element nothing code).setProperty name value
  | setAttribute attr text => (element nothing code).setAttribute attr text (textValue text)
  | removeAttribute attr => (element nothing code).removeAttribute attr
  | requestUpdate name old => (element nothing code).requestUpdate name old
  | declare name attr => (element nothing code).state.modify (·.declare name attr)
  | subscribe listener => do
    change (·.note (.subscribed listener))
    (element nothing code).state.modify fun s =>
      { s with subscribers := s.subscribers ++ [listener] }
  | unsubscribe listener => do
    change (·.note (.unsubscribed listener))
    (element nothing code).state.modify fun s =>
      { s with subscribers := s.subscribers.erase listener }
  | arrange listeners isConnected => (element nothing code).state.modify fun s =>
      { s with listeners := listeners, isConnected := isConnected }

/-- All that code outside may do if calls are nested to a depth. It may go on after something that
failed. -/
def behave : (depth : Nat) → Possibly (HookWorld V) Unit
  | 0 => pure ()
  | n + 1 => often (choose fun deed : Deed V => anything (deed.run nothing textValue (behave n)))

/-- The element among code that nests its calls to a depth. -/
def among (depth : Nat) : Element (Possibly (HookWorld V)) V V :=
  element nothing (behave nothing textValue depth)

/-- What the operation may come to, however deeply code outside nests its calls. -/
def HookOperation.possibly (op : HookOperation V) : Possibly (HookWorld V) Unit :=
  choose fun depth => match op with
    | deed d => d.run nothing textValue (behave nothing textValue depth)
    | performUpdate => do let _ ← (among nothing textValue depth).performUpdate
    | flush limit => do let _ ← (among nothing textValue depth).flush limit.toNat
    | complete => do let _ ← (among nothing textValue depth).complete

end Operation

end HookWorld

end SceneBridge
