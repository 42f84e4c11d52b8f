import SceneBridge.Entries
import SceneBridge.Registry.Key

/-!
# Registries

A registry keeps entries under the keys of their names, so that every spelling of a
name finds the same entry. A key never changes what it stands for.
-/

namespace SceneBridge

/-- Entries by key, in the order in which the keys came in. -/
structure Registry (α : Type) where
  entries : List (String × α)
deriving Inhabited

namespace Registry

variable {α : Type}

/-- A registry without entries. -/
def empty : Registry α := ⟨[]⟩

/-- Registers `a` under a name. `clashes old` says that the present entry `old` is another one. -/
def add (r : Registry α) (clashes : α → Bool) (name : Datum) (a : α) : Except Fault (Registry α) := do
  let key ← keyOfDatum name
  match r.entries.lookup key with
  | some old => if clashes old then throw (.keyTaken key)
  | none => pure ()
  return ⟨Entries.put r.entries key a⟩

/-- The entry of a name. -/
def get (r : Registry α) (name : Datum) : Except Fault α := do
  let key ← keyOfDatum name
  match r.entries.lookup key with
  | some a => return a
  | none => throw (.keyMissing name.plain)

/-- The entry of a name, if there is one; a name without a key has none. -/
def lookup? (r : Registry α) (name : Datum) : Option α :=
  match keyOfDatum name with
  | .ok key => r.entries.lookup key
  | .error _ => none

/-- Takes out the entry of a name, if there is one. -/
def remove (r : Registry α) (name : Datum) : Except Fault (Registry α) := do
  return ⟨Entries.remove r.entries (← keyOfDatum name)⟩

/-- All keys. -/
def keys (r : Registry α) : List String :=
  r.entries.map (·.1)

/-- All entries. -/
def values (r : Registry α) : List α :=
  r.entries.map (·.2)

end Registry

end SceneBridge
