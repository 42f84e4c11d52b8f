import SceneBridge.Element.Batch
import SceneBridge.Proofs.Possible

/-!
# An element and its hooks

One element among code that is not known: its hooks, its subscribers, and what compares
values. Such code may do with the element whatever anybody may do, as often and as deeply
nested as it likes, and it may fail. What a comparison of two values may come to is a parameter.
What happens to the element is kept as a history.
-/

namespace SceneBridge

open Possibly

/-! ## The history -/

/-- The hooks of an element. -/
inductive Hook where
  | update
  | firstUpdated
  | updated
deriving DecidableEq, Repr

/-- Something that happened to an element. -/
inductive Occurrence (V : Type) where
  /-- A value was written over another one, and found to be a change from it or not. -/
  | written (name : String) (old new : V) (isChange : Bool)
  /-- An update was asked for by name. -/
  | requested (name : String) (old : V)
  /-- A hook was called with a batch. -/
  | called (hook : Hook) (batch : List (String × V))
  /-- A subscriber was told the names of a batch. -/
  | told (subscriber : V) (names : List String)

/-- An element, and what happened to it so far. -/
structure ElementWorld (V : Type) where
  state : ElementState V V
  history : List (Occurrence V)

namespace ElementWorld

variable {V : Type}

/-- The world with one more thing that happened. -/
def note (w : ElementWorld V) (o : Occurrence V) : ElementWorld V :=
  { w with history := w.history ++ [o] }

/-- A new element. -/
def fresh : ElementWorld V := ⟨.empty, []⟩

/-! ## The element -/

section Element

variable (nothing : V) (compares : (old new : V) → (isChange : Bool) → Prop)
  (code : Possibly (ElementWorld V) Unit)

/-- Code outside is called, and that it is called is noted. -/
def calling (o : Occurrence V) : Possibly (ElementWorld V) Unit := do
  change (·.note o)
  anything code

/-- The element without the steps from one of its operations to another. -/
def bareElement : Element (Possibly (ElementWorld V)) V V where
  state := cell ElementWorld.state fun s w => { w with state := s }
  nothing := nothing
  differs := fun _ _ => anything code
  setProperty := fun _ _ => pure ()
  requestUpdate := fun _ _ => pure ()
  update := fun batch => calling code (.called .update batch)
  firstUpdated := fun batch => calling code (.called .firstUpdated batch)
  updated := fun batch => calling code (.called .updated batch)
  notify := fun subscriber names => calling code (.told subscriber names)

/-- The element while a property is written: what the comparison comes to is noted. -/
def writtenElement (name : String) : Element (Possibly (ElementWorld V)) V V :=
  { bareElement nothing code with
    differs := fun old new => do
      anything code
      let isChange ← choose fun answer : { b // compares old new b } => pure answer.1
      change (·.note (.written name old new isChange))
      return isChange
    requestUpdate := (bareElement nothing code).recordChange }

/-- The element. -/
def element : Element (Possibly (ElementWorld V)) V V :=
  { bareElement nothing code with
    setProperty := fun name value =>
      (writtenElement nothing compares code name).storeProperty name value
    requestUpdate := fun name old => do
      change (·.note (.requested name old))
      (bareElement nothing code).recordChange name old }

end Element

/-! ## Operations -/

/-- What anybody may do with the element. -/
inductive Operation (V : Type) where
  | setProperty (name : String) (value : V)
  | setAttribute (attr text : String)
  | removeAttribute (attr : String)
  | requestUpdate (name : String) (old : V)
  | performUpdate
  | flush (limit : Nat)
  | declare (name : String) (attr : Option String)
  | subscribe (listener : V)

section Operation

variable (nothing : V) (compares : (old new : V) → (isChange : Bool) → Prop)
  (textValue : String → V)

/-- What the operation does among code that does `code` when it is called. -/
def Operation.run (code : Possibly (ElementWorld V) Unit) :
    Operation V → Possibly (ElementWorld V) Unit
  | setProperty name value => (element nothing compares code).setProperty name value
  | setAttribute attr text => (element nothing compares code).setAttribute attr text (textValue text)
  | removeAttribute attr => (element nothing compares code).removeAttribute attr
  | requestUpdate name old => (element nothing compares code).requestUpdate name old
  | performUpdate => do let _ ← (element nothing compares code).performUpdate
  | flush limit => do let _ ← (element nothing compares code).flush limit
  | declare name attr => (element nothing compares code).state.modify (·.declare name attr)
  | subscribe listener => (element nothing compares code).state.modify fun s =>
    { s with subscribers := s.subscribers ++ [listener] }

/-- All that code outside may do if calls are nested to a depth. -/
def behave : (depth : Nat) → Possibly (ElementWorld V) Unit
  | 0 => pure ()
  | n + 1 => often (choose fun op : Operation V => op.run nothing compares textValue (behave n))

/-- What the operation may come to, however deeply code outside nests its calls. -/
def Operation.possibly (op : Operation V) : Possibly (ElementWorld V) Unit :=
  choose fun depth => op.run nothing compares textValue (behave nothing compares textValue depth)

/-- The property that the operation writes, and the value that it writes. -/
def Operation.write? (w : ElementWorld V) : Operation V → Option (String × V)
  | setProperty name value => some (name, value)
  | setAttribute attr text => (w.state.propertyFor? attr).map (·, textValue text)
  | removeAttribute attr =>
    if Entries.has w.state.attributes attr then (w.state.propertyFor? attr).map (·, nothing)
    else none
  | _ => none

end Operation

end ElementWorld

end SceneBridge
