import SceneBridge.Cell
import SceneBridge.Entries
import SceneBridge.Fault

/-!
# Remembered metadata

Metadata is extracted once for every class. To see its attributes, an instance of the
class is made first; a class of which none can be made has no metadata.
-/

namespace SceneBridge

/-- Metadata `M` by class, and how often metadata was extracted. -/
structure MetadataCache (C M : Type) where
  entries : List (C × M)
  extractions : Nat
deriving Inhabited

namespace MetadataCache

variable {C M : Type}

/-- Nothing is remembered. -/
def empty : MetadataCache C M := ⟨[], 0⟩

variable {m : Type → Type} [Monad m] [MonadExceptOf Fault m] [BEq C] {P : Type}

/-- The metadata of a class: the remembered one, or that which `extract` finds in the
instance that `probe` makes. -/
def metadataFor (cache : Cell m (MetadataCache C M)) (nameOf : C → m String) (probe : C → m P)
    (extract : C → P → m M) (c : C) : m M := do
  if let some md := (← cache.get).entries.lookup c then return md
  let instance_ ← tryCatchThe Fault (probe c) fun cause => do
    throw (.reflection (← nameOf c) cause)
  cache.modify fun s => { s with extractions := s.extractions + 1 }
  let md ← extract c instance_
  cache.modify fun s => { s with entries := Entries.put s.entries c md }
  return md

end MetadataCache

end SceneBridge
