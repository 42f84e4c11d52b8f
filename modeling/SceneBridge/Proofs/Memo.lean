import SceneBridge.Entries
import SceneBridge.TypeExpr.Memo

/-!
# Remembered readings are readings

However a table of readings came about, what it remembers of a text is what reading the
text gives.
-/

namespace SceneBridge.TypeExpr.Memo

/-- The tables that reading and forgetting lead to. -/
inductive Reached : Memo → Prop
  | empty : Reached .empty
  | read {m : Memo} (hm : Reached m) (limit : Nat) (naive : Bool) (text : String) :
      Reached (m.read limit naive text).2
  | clear {m : Memo} (hm : Reached m) : Reached m.clear

/-- Every remembered reading is the reading of its text. -/
def IsFaithful (m : Memo) : Prop :=
  ∀ table, m.table = some table → ∀ e ∈ table.entries, e.2 = ofText e.1.naive e.1.text

/-- What a table of readings may do when it is asked for one: it answers with what it has for the
key, or with the reading itself, and has nothing then but what it had and this answer. Which entries
it keeps is left open. -/
structure Answers (m : Memo) (limit : Nat) (naive : Bool) (text : String) (e : TypeExpr)
    (m' : Memo) : Prop where
  result : (⟨text, naive⟩, e) ∈ (m.tableFor limit).entries ∨ e = ofText naive text
  kept : ∀ table, m'.table = some table → ∀ x ∈ table.entries,
    x ∈ (m.tableFor limit).entries ∨ x = (⟨text, naive⟩, e)

/-- The table that moves what it used last to the front and drops the oldest entry answers so. -/
theorem answers_read (m : Memo) (limit : Nat) (naive : Bool) (text : String) :
    m.Answers limit naive text (m.read limit naive text).1 (m.read limit naive text).2 := by
  unfold Memo.read
  dsimp only
  split
  · rename_i e he
    refine ⟨.inl (Entries.mem_of_lookup he), fun table htable x hx => ?_⟩
    obtain rfl := Option.some.inj htable
    obtain rfl | hx := List.mem_cons.1 hx
    · exact .inr rfl
    · exact .inl (List.mem_filter.1 hx).1
  · refine ⟨.inr rfl, fun table htable x hx => ?_⟩
    obtain rfl := Option.some.inj htable
    obtain rfl | hx := List.mem_cons.1 (List.mem_of_mem_take hx)
    · exact .inr rfl
    · exact .inl hx

namespace IsFaithful

variable {m m' : Memo} {limit : Nat} {naive : Bool} {text : String} {e : TypeExpr}

/-- A table that is built anew remembers nothing. -/
theorem tableFor (hm : m.IsFaithful) (limit : Nat) :
    ∀ e ∈ (m.tableFor limit).entries, e.2 = ofText e.1.naive e.1.text := by
  intro e he
  unfold Memo.tableFor at he
  split at he
  · rename_i table htable
    split at he
    · exact hm table htable e he
    · cases he
  · cases he

/-- Whatever table answers a request, a faithful one answers it with the reading, and stays
faithful. -/
theorem answers (hm : m.IsFaithful) (h : m.Answers limit naive text e m') :
    e = ofText naive text ∧ m'.IsFaithful := by
  have hresult : e = ofText naive text := by
    obtain hstored | hread := h.result
    · exact hm.tableFor limit _ hstored
    · exact hread
  refine ⟨hresult, fun table htable x hx => ?_⟩
  obtain hold | rfl := h.kept table htable x hx
  · exact hm.tableFor limit x hold
  · exact hresult

/-- A text reads the same from the table as without it. -/
theorem read_fst (hm : m.IsFaithful) (limit : Nat) (naive : Bool) (text : String) :
    (m.read limit naive text).1 = ofText naive text :=
  (hm.answers (m.answers_read limit naive text)).1

theorem read (hm : m.IsFaithful) (limit : Nat) (naive : Bool) (text : String) :
    (m.read limit naive text).2.IsFaithful :=
  (hm.answers (m.answers_read limit naive text)).2

theorem clear : m.clear.IsFaithful := by
  intro table htable e he
  obtain ⟨old, -, rfl⟩ := Option.map_eq_some_iff.1 htable
  cases he

end IsFaithful

theorem Reached.isFaithful {m : Memo} (hm : Reached m) : m.IsFaithful := by
  induction hm with
  | empty =>
    intro table htable
    cases htable
  | read _ limit naive text ih => exact ih.read limit naive text
  | clear _ _ => exact IsFaithful.clear

end SceneBridge.TypeExpr.Memo
