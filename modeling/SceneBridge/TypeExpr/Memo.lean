import SceneBridge.TypeExpr.Grammar

/-!
# Remembered readings

A table of type texts that were read before, the latest used one first. The table
holds at most as many entries as the settings allowed when it was built; it is
built anew when that number changes, and the oldest entry leaves a full table.
-/

namespace SceneBridge.TypeExpr

/-- What a reading depends on: the text, and whether alternatives are split naively. -/
structure MemoKey where
  text : String
  naive : Bool
deriving DecidableEq, Repr

/-- Readings of one size limit. -/
structure MemoTable where
  limit : Nat
  entries : List (MemoKey × TypeExpr)

/-- The remembered readings; none before the first reading. -/
structure Memo where
  table : Option MemoTable
deriving Inhabited

namespace Memo

/-- No table yet. -/
def empty : Memo := ⟨none⟩

/-- The table for the limit `limit`: the present one if it has that limit, else a new one. -/
def tableFor (m : Memo) (limit : Nat) : MemoTable :=
  match m.table with
  | some t => if t.limit = limit then t else ⟨limit, []⟩
  | none => ⟨limit, []⟩

/-- Reads a type text, from the table if it is there. -/
def read (m : Memo) (limit : Nat) (naive : Bool) (text : String) : TypeExpr × Memo :=
  let t := m.tableFor limit
  let key : MemoKey := ⟨text, naive⟩
  match t.entries.lookup key with
  | some e => (e, ⟨some ⟨limit, (key, e) :: t.entries.filter (·.1 ≠ key)⟩⟩)
  | none =>
    let e := ofText naive text
    (e, ⟨some ⟨limit, ((key, e) :: t.entries).take limit⟩⟩)

/-- Forgets all readings, but not the limit. -/
def clear (m : Memo) : Memo :=
  ⟨m.table.map fun t => ⟨t.limit, []⟩⟩

/-- The limit of the table, if there is one. -/
def limit? (m : Memo) : Option Nat :=
  m.table.map (·.limit)

end Memo

end SceneBridge.TypeExpr
