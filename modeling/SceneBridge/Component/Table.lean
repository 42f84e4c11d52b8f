import SceneBridge.Cell
import SceneBridge.Registry.Table
import SceneBridge.Text.Letter

/-!
# Components by tag

A component says for which class the elements with its tag are made. A tag stays with
its class, and defining it again changes nothing.
-/

namespace SceneBridge

/-- How components `α` for classes `C`, with definitions `D`, are seen and made. -/
structure ComponentKind (m : Type → Type) (C D α : Type) where
  target : α → m C
  className : C → m String
  tag : α → m String
  definition : α → m D
  build : C → m D
  make : (tag : Datum) → D → m α

namespace ComponentKind

variable {m : Type → Type} [Monad m] [MonadExceptOf Fault m] {C D α : Type}

/-- The component of a tag. -/
def get (table : Cell m (Registry α)) (tag : Datum) : m α := do
  match (← table.get).get tag with
  | .ok a => return a
  | .error f => throw f

/-- Registers a new component under a tag that is free. -/
def register (table : Cell m (Registry α)) (tag : Datum) (new : α) : m Unit := do
  match (← table.get).add (fun _ => true) tag new with
  | .ok t => table.set t
  | .error f => throw f

/-- The tag of a class where none is given, with what all such tags start with. -/
def defaultTag (k : ComponentKind m C D α) (start : m String) (c : C) : m String := do
  let name ← k.className c
  return (← start) ++ Text.smallText name

/-- The component of a tag for a class: the one that is there, or a new one. -/
def define [BEq C] (k : ComponentKind m C D α) (table : Cell m (Registry α)) (tag : Datum) (c : C) :
    m α := do
  match (← table.get).lookup? tag with
  | some old =>
    let target ← k.target old
    if target == c then return old
    else throw (.tagTaken tag.plain (← k.className target))
  | none =>
    let definition ← k.build c
    let new ← k.make tag definition
    register table tag new
    return new

/-- The component for a class under the given tag, or under its own. -/
def defineAs [BEq C] (k : ComponentKind m C D α) (table : Cell m (Registry α)) (start : m String)
    (tag? : Option Datum) (c : C) : m α := do
  let tag ← match tag? with
    | some tag => pure tag
    | none => .text <$> k.defaultTag start c
  k.define table tag c

/-- The tags of all components in alphabetical order. -/
def tags (k : ComponentKind m C D α) (table : Cell m (Registry α)) : m (List String) := do
  return (← (← table.get).values.mapM k.tag).mergeSort

/-- Makes an element by tag. -/
def element {ε : Type} (k : ComponentKind m C D α) (table : Cell m (Registry α)) (create : D → m ε)
    (tag : Datum) : m ε := do
  create (← k.definition (← get table tag))

end ComponentKind

end SceneBridge
