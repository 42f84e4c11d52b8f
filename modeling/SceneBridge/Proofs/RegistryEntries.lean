import SceneBridge.Proofs.Failures
import SceneBridge.Registry.Table

/-!
# Entries of registries

An entry that comes in or is taken out leaves the other ones under their names.
-/

namespace SceneBridge.Registry

variable {α : Type} {r r' : Registry α} {a : α} {name : Datum} {key : String}

theorem plain_of_keyOfDatum (h : keyOfDatum name = .ok key) : .text name.plain = name := by
  cases name with
  | text s => rfl
  | _ => cases h

theorem lookup?_of_keyOfDatum (h : keyOfDatum name = .ok key) :
    r.lookup? name = r.entries.lookup key := by
  rw [lookup?, h]

theorem lookup?_eq_some_iff :
    r.lookup? name = some a ↔ ∃ key, keyOfDatum name = .ok key ∧ r.entries.lookup key = some a := by
  rw [lookup?]
  cases hkey : keyOfDatum name with
  | ok key => simp
  | error f => simp

theorem get_of_lookup? (h : r.lookup? name = some a) : r.get name = .ok a := by
  obtain ⟨key, hkey, hfound⟩ := lookup?_eq_some_iff.1 h
  rw [get, hkey, ok_bind, hfound]
  rfl

/-- A registry has one entry for all spellings of a name. -/
theorem lookup?_congr {other : Datum} (h : keyOfDatum name = keyOfDatum other) :
    r.lookup? name = r.lookup? other := by
  rw [lookup?, lookup?, h]

theorem mem_values_of_lookup (h : r.entries.lookup key = some a) : a ∈ r.values :=
  List.mem_map.2 ⟨_, Entries.mem_of_lookup h, rfl⟩

theorem mem_values_of_lookup? (h : r.lookup? name = some a) : a ∈ r.values := by
  obtain ⟨key, -, hfound⟩ := lookup?_eq_some_iff.1 h
  exact mem_values_of_lookup hfound

/-- Where every present entry counts as another one, only a new key can be registered. -/
theorem add_eq_ok {clashes : α → Bool} (hclashes : ∀ old ∈ r.values, clashes old = true)
    (h : r.add clashes name a = .ok r') :
    ∃ key, keyOfDatum name = .ok key ∧ r.entries.lookup key = none ∧
      r' = ⟨r.entries ++ [(key, a)]⟩ := by
  rw [add, bind_eq_ok_iff] at h
  obtain ⟨key, hkey, h⟩ := h
  refine ⟨key, hkey, ?_⟩
  cases hold : r.entries.lookup key with
  | some old =>
    simp only [hold, hclashes old (mem_values_of_lookup hold), if_true] at h
    cases h
  | none =>
    simp only [hold] at h
    cases h
    rw [Entries.put_of_notMem a (Entries.lookup_eq_none_iff.1 hold)]
    exact ⟨rfl, rfl⟩

theorem add_of_new (clashes : α → Bool) (a : α) (hkey : keyOfDatum name = .ok key)
    (hnew : r.entries.lookup key = none) :
    r.add clashes name a = .ok ⟨r.entries ++ [(key, a)]⟩ := by
  rw [add, hkey, ok_bind, hnew, Entries.put_of_notMem a (Entries.lookup_eq_none_iff.1 hnew)]
  rfl

/-- What a registry has under a name stays when an entry comes in behind the others. -/
theorem lookup?_append {other : Datum} {old : α} (h : r.lookup? other = some old) :
    (⟨r.entries ++ [(key, a)]⟩ : Registry α).lookup? other = some old := by
  obtain ⟨found, hfound, hold⟩ := lookup?_eq_some_iff.1 h
  refine lookup?_eq_some_iff.2 ⟨found, hfound, ?_⟩
  rw [List.lookup_append, hold]
  rfl

theorem lookup?_append_self (hkey : keyOfDatum name = .ok key)
    (hnew : r.entries.lookup key = none) :
    (⟨r.entries ++ [(key, a)]⟩ : Registry α).lookup? name = some a := by
  rw [lookup?_of_keyOfDatum hkey, List.lookup_append, hnew]
  simp

/-- Another entry than the one of a key stays when the key is taken out. -/
theorem lookup?_remove {other : Datum} {old : α} (hne : r.entries.lookup key ≠ some old)
    (h : r.lookup? other = some old) :
    (⟨Entries.remove r.entries key⟩ : Registry α).lookup? other = some old := by
  obtain ⟨found, hfound, hold⟩ := lookup?_eq_some_iff.1 h
  refine lookup?_eq_some_iff.2 ⟨found, hfound, ?_⟩
  have hkey : found ≠ key := by
    rintro rfl
    exact hne hold
  exact (Entries.lookup_remove_of_ne _ hkey).trans hold

theorem remove_eq_ok (h : r.remove name = .ok r') :
    ∃ key, keyOfDatum name = .ok key ∧ r' = ⟨Entries.remove r.entries key⟩ := by
  rw [remove, bind_eq_ok_iff] at h
  obtain ⟨key, hkey, h⟩ := h
  cases h
  exact ⟨key, hkey, rfl⟩

theorem mem_values_of_remove (h : a ∈ (⟨Entries.remove r.entries key⟩ : Registry α).values) :
    a ∈ r.values := by
  obtain ⟨e, he, rfl⟩ := List.mem_map.1 h
  exact List.mem_map.2 ⟨e, (List.mem_filter.1 he).1, rfl⟩

end SceneBridge.Registry
