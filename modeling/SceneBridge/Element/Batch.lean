import SceneBridge.Cell
import SceneBridge.Event.Listeners

/-!
# Batches of changes

An element stores the values of its properties and collects changes. An update takes
all collected changes at once, hands them to the hooks of the element, and tells its
subscribers. A batch says for every changed property which value it had before the
first change. Changes made while a batch is handed out go to the next one.

What the hooks do, and what setting a property means, is left to the kind of element.
-/

namespace SceneBridge

/-- The state of an element. -/
structure ElementState (K V : Type) where
  /-- Declared properties, each with the attribute that stands for it, if one does. -/
  declared : List (String × Option String)
  values : List (String × V)
  attributes : List (String × String)
  /-- The changed properties, in the order of their first change, with their old values. -/
  changed : List (String × V)
  listeners : Listeners K V
  subscribers : List V
  hasUpdated : Bool
  isConnected : Bool
deriving Inhabited

namespace ElementState

variable {K V : Type}

/-- A new element. -/
def empty : ElementState K V := ⟨[], [], [], [], ⟨[]⟩, [], false, false⟩

/-- Declares a property. -/
def declare (s : ElementState K V) (name : String) (attr : Option String) :
    ElementState K V :=
  { s with declared := Entries.put s.declared name attr }

/-- The first declared property that an attribute stands for. -/
def propertyFor? (s : ElementState K V) (attr : String) : Option String :=
  (s.declared.find? fun (_, a) => a == some attr).map (·.1)

/-- Stores a value without any notice. -/
def store (s : ElementState K V) (name : String) (value : V) : ElementState K V :=
  { s with values := Entries.put s.values name value }

/-- Notes a change, unless the property is noted already. -/
def record (s : ElementState K V) (name : String) (old : V) : ElementState K V :=
  if Entries.has s.changed name then s else { s with changed := s.changed ++ [(name, old)] }

/-- Is a change waiting? -/
def isPending (s : ElementState K V) : Bool :=
  !s.changed.isEmpty

end ElementState

/-- What an element is made of: its state, and what its kind decides. -/
structure Element (m : Type → Type) (K V : Type) where
  state : Cell m (ElementState K V)
  /-- The value of a property that was never set. -/
  nothing : V
  /-- Does the new value count as a change? -/
  differs : (old new : V) → m Bool
  setProperty : String → V → m Unit
  requestUpdate : String → (old : V) → m Unit
  update : List (String × V) → m Unit
  firstUpdated : List (String × V) → m Unit
  updated : List (String × V) → m Unit
  /-- Tells a subscriber which properties changed. -/
  notify : V → List String → m Unit

namespace Element

variable {m : Type → Type} [Monad m] [MonadExceptOf Fault m] {K V : Type}

/-! ## Properties -/

/-- The value of a property. -/
def property (e : Element m K V) (name : String) : m V := do
  return ((← e.state.get).values.lookup name).getD e.nothing

/-- Stores a value, and asks for an update if it is a change. -/
def storeProperty (e : Element m K V) (name : String) (value : V) : m Unit := do
  let old ← e.property name
  e.state.modify (·.store name value)
  if ← e.differs old value then e.requestUpdate name old

/-- Notes a change for the next batch. -/
def recordChange (e : Element m K V) (name : String) (old : V) : m Unit :=
  e.state.modify (·.record name old)

/-! ## Updates -/

/-- What follows an update: the hooks are run, and the subscribers are told. -/
def finishUpdate (e : Element m K V) (changed : List (String × V)) : m Unit := do
  let first := !(← e.state.get).hasUpdated
  e.state.modify ({ · with hasUpdated := true })
  if first then e.firstUpdated changed
  e.updated changed
  let names := changed.map (·.1)
  deliver (e.notify · names) (← e.state.get).subscribers

/-- Hands out one batch, if a change is waiting. -/
def performUpdate (e : Element m K V) : m Bool := do
  let s ← e.state.get
  if !s.isPending then return false
  let changed := s.changed
  e.state.modify ({ · with changed := [] })
  e.update changed
  e.finishUpdate changed
  return true

/-- Hands out batches until nothing is waiting, at most `limit` of them, and counts them. -/
def flush (e : Element m K V) : (limit : Nat) → m Nat
  | 0 => return 0
  | n + 1 => do
    if ← e.performUpdate then return (← e.flush n) + 1
    else return 0

/-- How many batches are handed out where no limit is given. -/
def usualRounds : Nat := 16

/-- Hands out the usual number of batches; is nothing waiting then? -/
def complete (e : Element m K V) : m Bool := do
  let _ ← e.flush usualRounds
  return !(← e.state.get).isPending

/-! ## Attributes -/

/-- Sets an attribute to a text, and the property that it stands for. -/
def setAttribute (e : Element m K V) (attr text : String) (value : V) : m Unit := do
  e.state.modify fun s => { s with attributes := Entries.put s.attributes attr text }
  if let some name := (← e.state.get).propertyFor? attr then
    e.setProperty name value

/-- Removes an attribute; the property that it stands for is left without a value. -/
def removeAttribute (e : Element m K V) (attr : String) : m Unit := do
  let s ← e.state.get
  if !Entries.has s.attributes attr then return
  e.state.set { s with attributes := Entries.remove s.attributes attr }
  if let some name := s.propertyFor? attr then
    e.setProperty name e.nothing

end Element

end SceneBridge
