/-!
# Cells

A cell is a part of the state that a computation can read and write. Rules that
hold for any kind of state are written over cells.
-/

namespace SceneBridge

/-- A readable and writable part of the state. -/
structure Cell (m : Type → Type) (σ : Type) where
  get : m σ
  set : σ → m Unit

namespace Cell

variable {m : Type → Type} [Monad m] {σ : Type}

/-- Changes the content of a cell. -/
def modify (c : Cell m σ) (f : σ → σ) : m Unit := do
  c.set (f (← c.get))

/-- Does something with the items of a list that is kept in a cell, from a place on and up to a
limit. Each item is looked up when its turn comes, as what is done may change the list: one that is
cleared meanwhile ends this. -/
def walk {α : Type} (c : Cell m σ) (items : σ → List α) (visit : α → m Unit) (place : Nat) :
    (limit : Nat) → m Unit
  | 0 => return
  | n + 1 => do
    match (items (← c.get))[place]? with
    | none => return
    | some x =>
      visit x
      c.walk items visit (place + 1) n

end Cell

end SceneBridge
