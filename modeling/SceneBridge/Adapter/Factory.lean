import SceneBridge.Cell
import SceneBridge.Entries

/-!
# Factories of definitions

A factory builds the definition for a class from the metadata of the class, once, and
keeps it. An adapter is made of a definition.
-/

namespace SceneBridge

/-- How definitions `D` for classes `C` are built from metadata `M`, with those that were
built before. -/
structure DefinitionFactory (m : Type → Type) (C M D : Type) where
  known : Cell m (List (C × D))
  metadata : C → m M
  define : C → M → m D

variable {m : Type → Type} [Monad m] {C M D : Type}

/-- The definition for a class: the one that is there, or a new one. -/
def DefinitionFactory.build [BEq C] (f : DefinitionFactory m C M D) (c : C) : m D := do
  if let some d := (← f.known.get).lookup c then return d
  let metadata ← f.metadata c
  let d ← f.define c metadata
  f.known.modify (Entries.put · c d)
  return d

/-- A new adapter of a definition, with attributes. -/
def newAdapter {V ε : Type} (make : D → m ε) (setAttribute : ε → String → V → m Unit) (d : D)
    (attributes : List (String × V)) : m ε := do
  let adapter ← make d
  attributes.forM fun (name, v) => setAttribute adapter name v
  return adapter

end SceneBridge
