import SceneBridge.Registry.Table

/-!
# Constructors by name and by class

A registry of constructors that also knows by which name the values of a class are
built.
-/

namespace SceneBridge

/-- Constructors by name, and names by the class of the values. -/
structure ConstructorTable (C α : Type) where
  registry : Registry α
  byClass : List (C × String)
deriving Inhabited

namespace ConstructorTable

variable {C α : Type} [BEq C]

/-- A table without constructors. -/
def empty : ConstructorTable C α := ⟨.empty, []⟩

/-- Registers a constructor, and its name for the class of its values if one is given. -/
def define (t : ConstructorTable C α) (clashes : α → Bool) (name : Datum) (a : α)
    (valueClass : Option C) : Except Fault (ConstructorTable C α) := do
  let registry ← t.registry.add clashes name a
  return match valueClass with
    | some c => ⟨registry, Entries.put t.byClass c name.plain⟩
    | none => ⟨registry, t.byClass⟩

/-- The name for the nearest class, of those that a class inherits from, whose name still
stands for a constructor. -/
def nameFor? (t : ConstructorTable C α) (order : List C) : Option String :=
  order.findSome? fun c =>
    match t.byClass.lookup c with
    | some name => (t.registry.lookup? (.text name)).map fun _ => name
    | none => none

/-- Takes out the constructor of a name, and the name for the class of its values if one is
given. -/
def remove (t : ConstructorTable C α) (name : Datum) (valueClass : Option C) :
    Except Fault (ConstructorTable C α) := do
  let registry ← t.registry.remove name
  return match valueClass with
    | some c => ⟨registry, Entries.remove t.byClass c⟩
    | none => ⟨registry, t.byClass⟩

end ConstructorTable

end SceneBridge
