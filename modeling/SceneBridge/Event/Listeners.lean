import SceneBridge.Entries
import SceneBridge.Fault

/-!
# Listeners

Who is to be told of an event, by event, in the order of registration. An event
reaches those who were registered when it was raised: what happens during the
delivery changes nothing about it, and neither does a listener that fails.
-/

namespace SceneBridge

/-- Listeners by event. -/
structure Listeners (K V : Type) where
  buckets : List (K × List V)
deriving Inhabited

namespace Listeners

variable {K V : Type} [BEq K] [BEq V]

/-- Nobody listens. -/
def empty : Listeners K V := ⟨[]⟩

/-- The listeners of an event. -/
def of (t : Listeners K V) (event : K) : List V :=
  (t.buckets.lookup event).getD []

/-- The table with other listeners for an event. -/
def put (t : Listeners K V) (event : K) (listeners : List V) : Listeners K V :=
  ⟨Entries.put t.buckets event listeners⟩

/-! ## One registration each -/

/-- Registers a listener, unless it is registered for the event already. -/
def on (t : Listeners K V) (event : K) (listener : V) : Listeners K V :=
  if (t.of event).contains listener then t else t.put event (t.of event ++ [listener])

/-- Takes a listener off an event. -/
def off (t : Listeners K V) (event : K) (listener : V) : Listeners K V :=
  if (t.of event).contains listener then t.put event ((t.of event).erase listener) else t

/-- Is the listener registered for the event? -/
def has (t : Listeners K V) (event : K) (listener : V) : Bool :=
  (t.of event).contains listener

/-! ## Any number of registrations -/

/-- Registers a listener once more. -/
def append (t : Listeners K V) (event : K) (listener : V) : Listeners K V :=
  t.put event (t.of event ++ [listener])

/-- Takes back the first registration of a listener. -/
def removeFirst (t : Listeners K V) (event : K) (listener : V) : Listeners K V :=
  t.put event ((t.of event).erase listener)

/-! ## What the operations do to the lists -/

omit [BEq V] in
theorem of_put_self [LawfulBEq K] (t : Listeners K V) (event : K) (ls : List V) :
    (t.put event ls).of event = ls := by
  simp [of, put, Entries.lookup_put_self]

omit [BEq V] in
theorem of_put_of_ne [LawfulBEq K] (t : Listeners K V) {event other : K} (ls : List V)
    (h : other ≠ event) : (t.put event ls).of other = t.of other := by
  simp [of, put, Entries.lookup_put_of_ne _ _ h]

end Listeners

/-! ## Delivery -/

/-- Calls every listener of a list in turn; a listener that fails does not stop the others. -/
def deliver {m : Type → Type} [Monad m] [MonadExceptOf Fault m] {V : Type} (call : V → m Unit)
    (listeners : List V) : m Unit :=
  listeners.forM fun l => tryCatchThe Fault (call l) fun _ => pure ()

/-- Tells those of an event who listen to it at the moment. -/
def announce {m : Type → Type} [Monad m] [MonadExceptOf Fault m] {K V : Type} [BEq K]
    (listeners : m (Listeners K V)) (event : K) (call : V → m Unit) : m Unit := do
  deliver call ((← listeners).of event)

end SceneBridge
