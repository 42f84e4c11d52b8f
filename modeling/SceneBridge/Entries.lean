/-!
# Ordered tables

A table is a list of keys with their values, in the order in which the keys came
in. Setting a key that is present keeps its place.
-/

namespace SceneBridge.Entries

variable {K V : Type} [BEq K]

/-- Sets the value of a key: a key that is present keeps its place. -/
def put (entries : List (K × V)) (key : K) (value : V) : List (K × V) :=
  match entries with
  | [] => [(key, value)]
  | (k, v) :: rest => if k == key then (k, value) :: rest else (k, v) :: put rest key value

/-- The table without a key. -/
def remove (entries : List (K × V)) (key : K) : List (K × V) :=
  entries.filter fun (k, _) => !(k == key)

/-- Is the key in the table? -/
def has (entries : List (K × V)) (key : K) : Bool :=
  entries.any fun (k, _) => k == key

/-- Puts the entries of the second table into the first. -/
def putAll (entries : List (K × V)) (more : List (K × V)) : List (K × V) :=
  more.foldl (fun t (k, v) => put t k v) entries

@[simp]
theorem put_nil (key : K) (value : V) : put [] key value = [(key, value)] := rfl

theorem mem_of_lookup [LawfulBEq K] {entries : List (K × V)} {key : K} {value : V}
    (h : entries.lookup key = some value) : (key, value) ∈ entries := by
  obtain ⟨before, after, rfl, -⟩ := List.lookup_eq_some_iff.1 h
  simp

theorem lookup_put_self [LawfulBEq K] (entries : List (K × V)) (key : K) (value : V) :
    (put entries key value).lookup key = some value := by
  induction entries with
  | nil => simp
  | cons e rest ih =>
    obtain ⟨k, v⟩ := e
    by_cases h : k = key
    · simp [put, h]
    · have hk : (key == k) = false := beq_eq_false_iff_ne.2 (Ne.symm h)
      simp [put, h, List.lookup_cons, hk, ih]

theorem lookup_put_of_ne [LawfulBEq K] (entries : List (K × V)) {key other : K} (value : V)
    (h : other ≠ key) : (put entries key value).lookup other = entries.lookup other := by
  have ho : (other == key) = false := beq_eq_false_iff_ne.2 h
  induction entries with
  | nil => simp [List.lookup_cons, ho]
  | cons e rest ih =>
    obtain ⟨k, v⟩ := e
    by_cases hk : k = key
    · subst hk
      simp [put, List.lookup_cons, ho]
    · simp [put, hk, List.lookup_cons, ih]

theorem keys_put_of_has [LawfulBEq K] (entries : List (K × V)) {key : K} (value : V)
    (h : has entries key = true) : (put entries key value).map (·.1) = entries.map (·.1) := by
  induction entries with
  | nil => simp [has] at h
  | cons e rest ih =>
    obtain ⟨k, v⟩ := e
    by_cases hk : k = key
    · simp [put, hk]
    · have : has rest key = true := by simpa [has, hk] using h
      simp [put, hk, ih this]

theorem put_of_notMem [LawfulBEq K] {entries : List (K × V)} {key : K} (value : V)
    (h : key ∉ entries.map (·.1)) : put entries key value = entries ++ [(key, value)] := by
  induction entries with
  | nil => rfl
  | cons e rest ih =>
    obtain ⟨k, v⟩ := e
    simp only [List.map_cons, List.mem_cons, not_or] at h
    have hk : (k == key) = false := beq_eq_false_iff_ne.2 (Ne.symm h.1)
    simp [put, hk, ih h.2]

theorem mem_keys_put [LawfulBEq K] (entries : List (K × V)) (key : K) (value : V) (other : K) :
    other ∈ (put entries key value).map (·.1) ↔ other ∈ entries.map (·.1) ∨ other = key := by
  induction entries with
  | nil => simp
  | cons e rest ih =>
    obtain ⟨k, v⟩ := e
    by_cases hk : k = key
    · subst hk
      simp only [put, beq_self_eq_true, if_true, List.map_cons, List.mem_cons]
      grind
    · simp only [put, beq_iff_eq, hk, if_false, List.map_cons, List.mem_cons, ih, or_assoc]

theorem has_iff [LawfulBEq K] {entries : List (K × V)} {key : K} :
    has entries key = true ↔ key ∈ entries.map (·.1) := by
  simp [has]

theorem lookup_eq_none_iff [LawfulBEq K] {entries : List (K × V)} {key : K} :
    entries.lookup key = none ↔ key ∉ entries.map (·.1) := by
  rw [List.lookup_eq_none_iff]
  grind

theorem lookup_remove_self [LawfulBEq K] (entries : List (K × V)) (key : K) :
    (remove entries key).lookup key = none := by
  rw [lookup_eq_none_iff]
  simp [remove]

theorem lookup_remove_of_ne [LawfulBEq K] (entries : List (K × V)) {key other : K}
    (h : other ≠ key) : (remove entries key).lookup other = entries.lookup other := by
  induction entries with
  | nil => rfl
  | cons e rest ih =>
    obtain ⟨k, v⟩ := e
    unfold remove at ih
    by_cases hk : k = key
    · subst hk
      have hother : (other == k) = false := beq_eq_false_iff_ne.2 h
      simp [remove, List.lookup_cons, hother, ih]
    · simp [remove, hk, List.lookup_cons, ih]

theorem mem_of_mem_put [LawfulBEq K] {entries : List (K × V)} {key : K} {value : V} {e : K × V}
    (h : e ∈ put entries key value) : e ∈ entries ∨ e = (key, value) := by
  induction entries with
  | nil => exact .inr (List.mem_singleton.1 h)
  | cons old rest ih =>
    obtain ⟨k, v⟩ := old
    rw [put] at h
    split at h
    · rename_i hk
      obtain rfl := eq_of_beq hk
      obtain rfl | h := List.mem_cons.1 h
      · exact .inr rfl
      · exact .inl (List.mem_cons_of_mem _ h)
    · obtain rfl | h := List.mem_cons.1 h
      · exact .inl List.mem_cons_self
      · exact (ih h).imp_left (List.mem_cons_of_mem _)

theorem mem_of_mem_putAll [LawfulBEq K] {entries more : List (K × V)} {e : K × V}
    (h : e ∈ putAll entries more) : e ∈ entries ∨ e ∈ more := by
  induction more generalizing entries with
  | nil => exact .inl h
  | cons first more ih =>
    obtain ⟨k, v⟩ := first
    have hmore : e ∈ putAll (put entries k v) more := h
    obtain h | h := ih hmore
    · obtain h | rfl := mem_of_mem_put h
      · exact .inl h
      · exact .inr List.mem_cons_self
    · exact .inr (List.mem_cons_of_mem _ h)

/-- Of different keys, each is found with its own value. -/
theorem lookup_of_mem [LawfulBEq K] {entries : List (K × V)} {key : K} {value : V}
    (hkeys : (entries.map (·.1)).Nodup) (h : (key, value) ∈ entries) :
    entries.lookup key = some value := by
  induction entries with
  | nil => cases h
  | cons e rest ih =>
    obtain ⟨k, v⟩ := e
    rw [List.map_cons, List.nodup_cons] at hkeys
    obtain heq | h := List.mem_cons.1 h
    · obtain ⟨rfl, rfl⟩ := Prod.mk.inj heq
      simp
    · have hmem : key ∈ rest.map (·.1) := List.mem_map.2 ⟨_, h, rfl⟩
      have hk : (key == k) = false := by
        rw [beq_eq_false_iff_ne]
        rintro rfl
        exact hkeys.1 hmem
      rw [List.lookup_cons, hk]
      exact ih hkeys.2 h

theorem nodup_keys_put [LawfulBEq K] {entries : List (K × V)} (key : K) (value : V)
    (h : (entries.map (·.1)).Nodup) : ((put entries key value).map (·.1)).Nodup := by
  cases hhas : has entries key with
  | true => rwa [keys_put_of_has entries value hhas]
  | false =>
    have hnew : key ∉ entries.map (·.1) := by
      rw [← has_iff, hhas]
      exact Bool.false_ne_true
    rw [put_of_notMem value hnew, List.map_append, List.map_singleton, List.nodup_append]
    refine ⟨h, by simp, fun k hk other hother => ?_⟩
    rintro rfl
    obtain rfl := List.mem_singleton.1 hother
    exact hnew hk

/-- Setting keys one after another leaves them different. -/
theorem nodup_keys_putAll [LawfulBEq K] {entries : List (K × V)} (more : List (K × V))
    (h : (entries.map (·.1)).Nodup) : ((putAll entries more).map (·.1)).Nodup := by
  induction more generalizing entries with
  | nil => exact h
  | cons e more ih => exact ih (nodup_keys_put e.1 e.2 h)

/-- Entries of different keys come in one after the other. -/
theorem putAll_of_nodup [LawfulBEq K] (entries more : List (K × V))
    (h : ((entries ++ more).map (·.1)).Nodup) : putAll entries more = entries ++ more := by
  induction more generalizing entries with
  | nil => simp [putAll]
  | cons e more ih =>
    obtain ⟨k, v⟩ := e
    have hnew : k ∉ entries.map (·.1) := by
      intro hk
      rw [List.map_append, List.nodup_append] at h
      exact h.2.2 k hk k (by simp) rfl
    have hput : put entries k v = entries ++ [(k, v)] := put_of_notMem v hnew
    have hrest := ih (entries ++ [(k, v)]) (by simpa using h)
    rw [putAll, List.foldl_cons, ← putAll]
    dsimp only
    rw [hput, hrest, List.append_assoc, List.singleton_append]

/-! ## Keys of another kind -/

section MapKeys

variable {L : Type} [BEq L] {f : K → L}

/-- The table with other keys. -/
def mapKeys (f : K → L) (entries : List (K × V)) : List (L × V) :=
  entries.map fun e => (f e.1, e.2)

theorem put_mapKeys (hf : ∀ a b, (f a == f b) = (a == b)) (entries : List (K × V)) (key : K)
    (value : V) : put (mapKeys f entries) (f key) value = mapKeys f (put entries key value) := by
  induction entries with
  | nil => rfl
  | cons e rest ih =>
    obtain ⟨k, v⟩ := e
    unfold mapKeys at ih ⊢
    cases hk : k == key with
    | true => simp [put, hf, hk]
    | false => simp [put, hf, hk, ih]

theorem remove_mapKeys (hf : ∀ a b, (f a == f b) = (a == b)) (entries : List (K × V)) (key : K) :
    remove (mapKeys f entries) (f key) = mapKeys f (remove entries key) := by
  simp [remove, mapKeys, List.filter_map, Function.comp_def, hf]

theorem lookup_mapKeys (hf : ∀ a b, (f a == f b) = (a == b)) (entries : List (K × V)) (key : K) :
    (mapKeys f entries).lookup (f key) = entries.lookup key := by
  induction entries with
  | nil => rfl
  | cons e rest ih =>
    obtain ⟨k, v⟩ := e
    unfold mapKeys at ih ⊢
    simp only [List.map_cons, List.lookup_cons, hf, ih]

end MapKeys

end SceneBridge.Entries
