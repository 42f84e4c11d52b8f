import SceneBridge.Object.Value
import SceneBridge.Event.Listeners

/-!
# Registrations

What a table of listeners holds after a history of registrations. Sources of events register a
listener once for an event, elements as often as they are asked to; for each event the listeners
stand in the order in which they came.
-/

namespace SceneBridge

/-! ## Keys that equal only themselves -/

/-- A key is found where it stands, and nowhere else. Values are not all of this kind: some numbers
are not equal to themselves. -/
structure IsExact {K : Type} [BEq K] (key : K) : Prop where
  left : ∀ k, (key == k) = true ↔ k = key
  right : ∀ k, (k == key) = true ↔ k = key

theorem Value.isExact_text (s : String) : IsExact (Value.text s) where
  left v := by cases v <;> simp [BEq.beq, Value.same, eq_comm]
  right v := by cases v <;> simp [BEq.beq, Value.same]

namespace Entries

variable {K V : Type} [BEq K]

theorem lookup_put_of_isExact (entries : List (K × V)) {key : K} (value : V) (h : IsExact key) :
    (put entries key value).lookup key = some value := by
  induction entries with
  | nil => simp [List.lookup_cons, (h.left key).2 rfl]
  | cons e rest ih =>
    obtain ⟨k, v⟩ := e
    by_cases hk : k = key
    · simp [put, hk, List.lookup_cons, (h.left key).2 rfl]
    · have hright : (k == key) = false := Bool.eq_false_iff.2 fun heq => hk ((h.right k).1 heq)
      have hleft : (key == k) = false := Bool.eq_false_iff.2 fun heq => hk ((h.left k).1 heq)
      simp [put, hright, List.lookup_cons, hleft, ih]

theorem lookup_put_of_isExact_of_ne (entries : List (K × V)) {key other : K} (value : V)
    (h : IsExact key) (hother : IsExact other) (hne : other ≠ key) :
    (put entries key value).lookup other = entries.lookup other := by
  have hapart : (other == key) = false :=
    Bool.eq_false_iff.2 fun heq => hne ((hother.left key).1 heq).symm
  induction entries with
  | nil => simp [List.lookup_cons, hapart]
  | cons e rest ih =>
    obtain ⟨k, v⟩ := e
    by_cases hk : k = key
    · simp [put, hk, (h.right key).2 rfl, List.lookup_cons, hapart]
    · have hright : (k == key) = false := Bool.eq_false_iff.2 fun heq => hk ((h.right k).1 heq)
      simp [put, hright, List.lookup_cons, ih]

theorem values_put (entries : List (K × V)) (key : K) (value : V) {e : K × V}
    (he : e ∈ put entries key value) : e ∈ entries ∨ e.2 = value := by
  induction entries with
  | nil =>
    obtain rfl := List.mem_singleton.1 he
    exact .inr rfl
  | cons old rest ih =>
    obtain ⟨k, v⟩ := old
    rw [put] at he
    split at he
    · rcases List.mem_cons.1 he with rfl | he
      · exact .inr rfl
      · exact .inl (List.mem_cons_of_mem _ he)
    · rcases List.mem_cons.1 he with rfl | he
      · exact .inl List.mem_cons_self
      · exact (ih he).imp_left (List.mem_cons_of_mem _)

/-- What is found in a table stands in it. -/
theorem exists_of_lookup {entries : List (K × V)} {key : K} {value : V}
    (h : entries.lookup key = some value) : ∃ k, (k, value) ∈ entries := by
  induction entries with
  | nil => cases h
  | cons e rest ih =>
    obtain ⟨k, v⟩ := e
    rw [List.lookup_cons] at h
    cases hk : key == k with
    | true =>
      rw [hk] at h
      obtain rfl := Option.some.inj h
      exact ⟨k, List.mem_cons_self⟩
    | false =>
      rw [hk] at h
      obtain ⟨k', hk'⟩ := ih h
      exact ⟨k', List.mem_cons_of_mem _ hk'⟩

end Entries

/-! ## Histories -/

/-- A listener was registered for an event, or taken off it. -/
inductive Registration where
  | on (event : String) (listener : Value)
  | off (event : String) (listener : Value)

namespace Registration

/-- The listeners of an event afterwards, where a listener is registered once. -/
def single (event : String) (ls : List Value) : Registration → List Value
  | on other l => if other = event ∧ ls.contains l = false then ls ++ [l] else ls
  | off other l => if other = event ∧ ls.contains l = true then ls.erase l else ls

/-- The listeners of an event afterwards, where a listener is registered as often as is asked
for. -/
def repeated (event : String) (ls : List Value) : Registration → List Value
  | on other l => if other = event then ls ++ [l] else ls
  | off other l => if other = event then ls.erase l else ls

end Registration

/-- The listeners of an event after a history, where a listener is registered once. -/
def registered (event : String) (history : List Registration) : List Value :=
  history.foldl (Registration.single event) []

/-- No listener stands in the list after one that is the same. -/
def IsDistinct (ls : List Value) : Prop :=
  ls.Pairwise fun earlier later => (later == earlier) = false

theorem IsDistinct.append_singleton {ls : List Value} {l : Value} (h : IsDistinct ls)
    (hnew : ls.contains l = false) : IsDistinct (ls ++ [l]) := by
  refine List.pairwise_append.2 ⟨h, List.pairwise_singleton _ _, ?_⟩
  intro earlier hearlier later hl
  obtain rfl := List.mem_singleton.1 hl
  refine Bool.eq_false_iff.2 fun heq => ?_
  rw [List.contains_iff_exists_mem_beq.2 ⟨earlier, hearlier, heq⟩] at hnew
  cases hnew

theorem IsDistinct.erase {ls : List Value} (h : IsDistinct ls) (l : Value) :
    IsDistinct (ls.erase l) :=
  List.Pairwise.sublist List.erase_sublist h

namespace Listeners

variable (t : Listeners Value Value) (event name : String) (l : Value)

theorem of_put_text (ls : List Value) :
    (t.put (.text event) ls).of (.text name) = if event = name then ls else t.of (.text name) := by
  unfold of put
  dsimp only
  split
  · rename_i hname
    rw [hname, Entries.lookup_put_of_isExact _ _ (Value.isExact_text name), Option.getD_some]
  · rename_i hname
    have hne : Value.text name ≠ .text event := by
      intro heq
      exact hname (Value.text.inj heq).symm
    rw [Entries.lookup_put_of_isExact_of_ne _ _ (Value.isExact_text _) (Value.isExact_text _) hne]

theorem of_on :
    (t.on (.text event) l).of (.text name) =
      (Registration.on event l).single name (t.of (.text name)) := by
  unfold on Registration.single
  -- The lists of other events are left alone, whether or not the listener is new.
  by_cases hname : event = name
  · subst hname
    cases hmem : (t.of (.text event)).contains l with
    | true => simp [hmem]
    | false => simp [hmem, of_put_text]
  · simp only [hname, false_and, if_false]
    split
    · rfl
    · rw [of_put_text, if_neg hname]

theorem of_off :
    (t.off (.text event) l).of (.text name) =
      (Registration.off event l).single name (t.of (.text name)) := by
  unfold off Registration.single
  by_cases hname : event = name
  · subst hname
    cases hmem : (t.of (.text event)).contains l with
    | true => simp [hmem, of_put_text]
    | false => simp [hmem]
  · simp only [hname, false_and, if_false]
    split
    · rw [of_put_text, if_neg hname]
    · rfl

theorem of_append :
    (t.append (.text event) l).of (.text name) =
      (Registration.on event l).repeated name (t.of (.text name)) := by
  rw [append, of_put_text, Registration.repeated]
  split
  · rename_i hname
    rw [hname]
  · rfl

theorem of_removeFirst :
    (t.removeFirst (.text event) l).of (.text name) =
      (Registration.off event l).repeated name (t.of (.text name)) := by
  rw [removeFirst, of_put_text, Registration.repeated]
  split
  · rename_i hname
    rw [hname]
  · rfl

/-! ## Tables without repetition -/

/-- No list of the table has a listener twice. -/
def AreDistinct (t : Listeners Value Value) : Prop :=
  ∀ b ∈ t.buckets, IsDistinct b.2

variable {t}

theorem AreDistinct.of (h : t.AreDistinct) (key : Value) : IsDistinct (t.of key) := by
  unfold Listeners.of
  cases hfound : t.buckets.lookup key with
  | none => exact List.Pairwise.nil
  | some ls =>
    obtain ⟨k, hk⟩ := Entries.exists_of_lookup hfound
    exact h _ hk

theorem AreDistinct.put (h : t.AreDistinct) (key : Value) {ls : List Value} (hls : IsDistinct ls) :
    (t.put key ls).AreDistinct := by
  intro b hb
  rcases Entries.values_put _ _ _ hb with hb | hb
  · exact h b hb
  · rw [hb]
    exact hls

theorem AreDistinct.on (h : t.AreDistinct) (key l : Value) : (t.on key l).AreDistinct := by
  unfold Listeners.on
  cases hmem : (t.of key).contains l with
  | true => exact h
  | false => exact h.put key ((h.of key).append_singleton hmem)

theorem AreDistinct.off (h : t.AreDistinct) (key l : Value) : (t.off key l).AreDistinct := by
  unfold Listeners.off
  split
  · exact h.put key ((h.of key).erase l)
  · exact h

end Listeners

end SceneBridge
