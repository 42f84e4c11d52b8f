import Mathlib.Data.List.Infix
import SceneBridge.Datum.Equal
import SceneBridge.Proofs.AdapterSteps
import SceneBridge.Proofs.ElementWorld

/-!
# Batches of an element

Which changes an element hands out together. The history of an element falls apart into
sections, each closed by a batch: the batch tells what was recorded in its section, every name
once, with the first old value. What was recorded since the last batch is pending.
-/

namespace SceneBridge

open Possibly

/-! ## What is recorded -/

namespace Occurrence

variable {V : Type}

/-- What is recorded of an occurrence: a property that was written or asked for, with its old
value. Writing what is no change is not recorded. -/
def record? : Occurrence V → Option (String × V)
  | written name old _ true => some (name, old)
  | requested name old => some (name, old)
  | _ => none

/-- The batch that is handed to the element to update. -/
def batch? : Occurrence V → Option (List (String × V))
  | called .update batch => some batch
  | _ => none

/-- A write is a change if the comparison of the two values says so. -/
def IsTrue (compares : (old new : V) → (isChange : Bool) → Prop) : Occurrence V → Prop
  | written _ old new isChange => compares old new isChange
  | _ => True

end Occurrence

/-- What is recorded in a part of a history, in order. -/
def records {V : Type} (part : List (Occurrence V)) : List (String × V) :=
  part.filterMap Occurrence.record?

/-- The batch tells of some records: it has each name once, in the order of the first record of
each, with the old value there. -/
structure Gathers {V : Type} (rs batch : List (String × V)) : Prop where
  names : batch.map (·.1) = (rs.map (·.1)).eraseDups
  old : ∀ name, batch.lookup name = rs.lookup name

/-- The history falls apart into sections, each closed by the batch of what was recorded in it;
`pending` is what was recorded after them. -/
inductive Batched {V : Type} : List (Occurrence V) → List (String × V) → Prop
  | rest {part : List (Occurrence V)} {pending : List (String × V)}
    (hpart : part.filterMap Occurrence.batch? = []) (h : Gathers (records part) pending) :
    Batched part pending
  | batch {part later : List (Occurrence V)} {batch pending : List (String × V)}
    (hpart : part.filterMap Occurrence.batch? = []) (h : Gathers (records part) batch)
    (hlater : Batched later pending) : Batched (part ++ .called .update batch :: later) pending

section Sections

variable {V : Type} {rs pending : List (String × V)} {history : List (Occurrence V)}

theorem Gathers.nil : Gathers ([] : List (String × V)) [] := ⟨rfl, fun _ => rfl⟩

/-- Noting a change keeps what was noted first. -/
theorem Gathers.record {s : ElementState V V} (h : Gathers rs s.changed) (name : String) (old : V) :
    Gathers (rs ++ [(name, old)]) (s.record name old).changed := by
  have hhas : Entries.has s.changed name = true ↔ name ∈ rs.map (·.1) := by
    rw [← List.mem_eraseDups, ← h.names]
    simp [Entries.has]
  unfold ElementState.record
  by_cases hname : name ∈ rs.map (·.1)
  · have hknown : List.removeAll [name] (rs.map (·.1)) = [] := by simpa [List.removeAll] using hname
    rw [if_pos (hhas.2 hname)]
    refine ⟨?_, fun other => ?_⟩
    · simp [List.eraseDups_append, hknown, h.names]
    · rw [List.lookup_append, h.old other]
      cases hother : rs.lookup other with
      | some v => rfl
      | none =>
        -- A name without an old value was not recorded, so it is another one.
        have hne : other ≠ name := by
          rintro rfl
          obtain ⟨r, hr, hr1⟩ := List.mem_map.1 hname
          simpa [hr1] using List.lookup_eq_none_iff.1 hother r hr
        simp [List.lookup_cons, beq_eq_false_iff_ne.2 hne]
  · have hnew : List.removeAll [name] (rs.map (·.1)) = [name] := by
      simpa [List.removeAll] using hname
    rw [if_neg (mt hhas.1 hname)]
    refine ⟨?_, fun other => ?_⟩
    · simp [List.eraseDups_append, hnew, h.names, List.eraseDups_cons]
    · rw [List.lookup_append, List.lookup_append, h.old other]

/-- What follows in a history that hands out no batch changes what is pending only. -/
theorem Batched.extend {more : List (Occurrence V)} {later : List (String × V)}
    (h : Batched history pending) (hmore : more.filterMap Occurrence.batch? = [])
    (hrecords : ∀ rs, Gathers rs pending → Gathers (rs ++ records more) later) :
    Batched (history ++ more) later := by
  induction h with
  | rest hpart h =>
    refine .rest (by simp [hpart, hmore]) ?_
    simpa [records] using hrecords _ h
  | batch hpart h _ ih =>
    rw [List.append_assoc, List.cons_append]
    exact .batch hpart h (ih hrecords)

/-- What is pending is handed out, and nothing is pending then. -/
theorem Batched.hand (h : Batched history pending) :
    Batched (history ++ [.called .update pending]) [] := by
  induction h with
  | rest hpart h => exact .batch hpart h (.rest rfl .nil)
  | batch hpart h _ ih =>
    rw [List.append_assoc, List.cons_append]
    exact .batch hpart h ih

end Sections

namespace ElementWorld

variable {V : Type} {nothing : V} {compares : (old new : V) → (isChange : Bool) → Prop}
  {textValue : String → V} {code : Possibly (ElementWorld V) Unit} {v w : ElementWorld V}

/-! ## Steps -/

/-- The value of a property. -/
def value (nothing : V) (w : ElementWorld V) (name : String) : V :=
  (w.state.values.lookup name).getD nothing

/-- What happened before is still in the history, and if the history was true and fell apart into
batches before, it still is and does. -/
structure Keeps (compares : (old new : V) → (isChange : Bool) → Prop) (v w : ElementWorld V) :
    Prop where
  history : v.history <+: w.history
  isTrue : (∀ o ∈ v.history, o.IsTrue compares) → ∀ o ∈ w.history, o.IsTrue compares
  batched : Batched v.history v.state.changed → Batched w.history w.state.changed

theorem keeps_isStep : IsStep (Keeps compares) where
  refl _ := ⟨List.prefix_rfl, id, id⟩
  trans h₁ h₂ :=
    ⟨h₁.history.trans h₂.history, h₂.isTrue ∘ h₁.isTrue, h₂.batched ∘ h₁.batched⟩

theorem keeps_state {s : ElementState V V} (h : s.changed = v.state.changed) :
    Keeps compares v { v with state := s } := by
  refine ⟨List.prefix_rfl, id, fun hv => ?_⟩
  rw [h]
  exact hv

/-- One more thing happened, which is true. -/
theorem isTrue_append {o : Occurrence V} (ho : o.IsTrue compares)
    (hv : ∀ o ∈ v.history, o.IsTrue compares) : ∀ o' ∈ v.history ++ [o], o'.IsTrue compares := by
  rw [List.forall_mem_append]
  exact ⟨hv, List.forall_mem_singleton.2 ho⟩

theorem keeps_note {o : Occurrence V} (ho : o.IsTrue compares) (hrecord : o.record? = none)
    (hbatch : o.batch? = none) : Keeps compares v (v.note o) := by
  refine ⟨List.prefix_append _ _, isTrue_append ho, fun hv => hv.extend (by simp [hbatch]) fun rs hrs => ?_⟩
  have hnone : records [o] = [] := by simp [records, hrecord]
  rw [hnone, List.append_nil]
  exact hrs

theorem keeps_record {o : Occurrence V} {name : String} {old : V} (ho : o.IsTrue compares)
    (hrecord : o.record? = some (name, old)) (hbatch : o.batch? = none) :
    Keeps compares v { v.note o with state := v.state.record name old } := by
  refine ⟨List.prefix_append _ _, isTrue_append ho, fun hv => hv.extend (by simp [hbatch]) fun rs hrs => ?_⟩
  have hone : records [o] = [(name, old)] := by simp [records, hrecord]
  rw [hone]
  exact hrs.record name old

/-- Taking the batch and handing it out is one step. -/
theorem keeps_hand (v : ElementWorld V) :
    Keeps compares v (note { v with state := { v.state with changed := [] } }
      (.called .update v.state.changed)) :=
  ⟨List.prefix_append _ _, isTrue_append trivial, Batched.hand⟩

theorem modify_keeps {f : ElementState V V → ElementState V V}
    (hf : ∀ s, (f s).changed = s.changed) :
    Advances (Keeps compares) ((element nothing compares code).state.modify f) := by
  have hmodify : (element nothing compares code).state.modify f =
      change fun w => { w with state := f w.state } :=
    cell_modify _ _ f
  rw [hmodify]
  exact .change fun w => keeps_state (hf w.state)

theorem calling_keeps (hcode : Advances (Keeps compares) code) {o : Occurrence V} (ho : o.IsTrue compares)
    (hrecord : o.record? = none) (hbatch : o.batch? = none) :
    Advances (Keeps compares) (calling code o) := by
  refine .bind keeps_isStep (.change fun w => keeps_note ho hrecord hbatch) fun _ => ?_
  exact .anything hcode

theorem recordChange_ends (w : ElementWorld V) (name : String) (old : V) :
    Ends ((bareElement nothing code).recordChange name old) w ()
      { w with state := w.state.record name old } :=
  .modify _ _ _ w

/-! ## Writes -/

/-- The last thing that happened is that the property was written over the value it had. -/
def Wrote (nothing : V) (name : String) (new : V) (v w : ElementWorld V) : Prop :=
  ∃ between isChange,
    w.history = v.history ++ between ++ [.written name (v.value nothing name) new isChange]

theorem differs_cases (hcode : Advances (Keeps compares) code) {name : String} {old new : V}
    {outcome : Except Fault Bool}
    (hrun : (writtenElement nothing compares code name).differs old new v (outcome, w)) :
    (∃ f, outcome = .error f ∧ Keeps compares v w) ∨
      ∃ isChange u, outcome = .ok isChange ∧ compares old new isChange ∧ Keeps compares v u ∧
        w = u.note (.written name old new isChange) := by
  rcases bind_cases hrun with ⟨f, rfl, hcompare⟩ | ⟨_, u, hcompare, hrest⟩
  · exact .inl ⟨f, rfl, Advances.anything hcode _ _ _ hcompare⟩
  · obtain ⟨answer, x, ⟨⟨isChange, hcompared⟩, hanswer⟩, hnoted⟩ := hrest
    obtain ⟨rfl, rfl⟩ := Prod.mk.inj hanswer
    obtain ⟨rfl, rfl⟩ := Prod.mk.inj (change_bind.1 hnoted)
    exact .inr ⟨isChange, x, rfl, hcompared, Advances.anything hcode _ _ _ hcompare, rfl⟩

theorem setProperty_keeps (hcode : Advances (Keeps compares) code) {name : String} {new : V}
    {outcome : Except Fault Unit}
    (hrun : (element nothing compares code).setProperty name new v (outcome, w)) :
    Keeps compares v w ∧ (outcome = .ok () → Wrote nothing name new v w) := by
  let e := writtenElement nothing compares code name
  have hold : Ends (e.property name) v (v.value nothing name) v := .bind (.read _ v) (.pure _ v)
  have hstore : Ends (e.state.modify (·.store name new)) v ()
      { v with state := v.state.store name new } :=
    .modify _ _ _ v
  have hstored : Keeps compares v { v with state := v.state.store name new } := keeps_state rfl
  obtain ⟨found, t, hdiffers, hrest⟩ := hstore.bind_iff.1 (hold.bind_iff.1 hrun)
  rcases differs_cases hcode hdiffers with
    ⟨f, rfl, hfailed⟩ | ⟨isChange, u, rfl, hcompared, hdone, rfl⟩
  · obtain ⟨rfl, rfl⟩ := Prod.mk.inj hrest
    exact ⟨keeps_isStep.trans hstored hfailed, fun h => by cases h⟩
  have hu : Keeps compares v u := keeps_isStep.trans hstored hdone
  obtain ⟨between, hbetween⟩ := hu.history
  cases isChange with
  | true =>
    -- The change is recorded before anything else can happen.
    obtain ⟨rfl, rfl⟩ := Prod.mk.inj ((recordChange_ends _ _ _ _).1 hrest)
    refine ⟨keeps_isStep.trans hu (keeps_record hcompared rfl rfl), fun _ => ⟨between, true, ?_⟩⟩
    rw [hbetween]
    rfl
  | false =>
    obtain ⟨rfl, rfl⟩ := Prod.mk.inj hrest
    refine ⟨keeps_isStep.trans hu (keeps_note hcompared rfl rfl), fun _ => ⟨between, false, ?_⟩⟩
    rw [hbetween]
    rfl

theorem setAttribute_keeps (hcode : Advances (Keeps compares) code) {attr text : String} {new : V}
    {outcome : Except Fault Unit}
    (hrun : (element nothing compares code).setAttribute attr text new v (outcome, w)) :
    Keeps compares v w ∧ ∀ name, outcome = .ok () → v.state.propertyFor? attr = some name →
      Wrote nothing name new v w := by
  let s := { v.state with attributes := Entries.put v.state.attributes attr text }
  have hput : Ends ((element nothing compares code).state.modify fun s =>
      { s with attributes := Entries.put s.attributes attr text }) v () { v with state := s } :=
    .modify _ _ _ v
  have hs : Keeps compares v { v with state := s } := keeps_state rfl
  have hrest := read_bind.1 (hput.bind_iff.1 hrun)
  have hfor : s.propertyFor? attr = v.state.propertyFor? attr := rfl
  simp only [hfor] at hrest
  cases hname : v.state.propertyFor? attr with
  | none =>
    simp only [hname] at hrest
    obtain ⟨rfl, rfl⟩ := Prod.mk.inj hrest
    exact ⟨hs, fun name _ h => by cases h⟩
  | some name =>
    simp only [hname] at hrest
    obtain ⟨hkeeps, hwrote⟩ := setProperty_keeps hcode hrest
    refine ⟨keeps_isStep.trans hs hkeeps, fun other hok h => ?_⟩
    obtain rfl := Option.some.inj h
    exact hwrote hok

theorem removeAttribute_keeps (hcode : Advances (Keeps compares) code) {attr : String}
    {outcome : Except Fault Unit}
    (hrun : (element nothing compares code).removeAttribute attr v (outcome, w)) :
    Keeps compares v w ∧ ∀ name, outcome = .ok () → Entries.has v.state.attributes attr = true →
      v.state.propertyFor? attr = some name → Wrote nothing name nothing v w := by
  let s := { v.state with attributes := Entries.remove v.state.attributes attr }
  have hs : Keeps compares v { v with state := s } := keeps_state rfl
  have hrest := read_bind.1 hrun
  cases hhas : Entries.has v.state.attributes attr with
  | false =>
    simp only [hhas] at hrest
    obtain ⟨rfl, rfl⟩ := Prod.mk.inj hrest
    exact ⟨keeps_isStep.refl _, fun name _ h => by cases h⟩
  | true =>
    simp only [hhas] at hrest
    have hwrite := change_bind.1 hrest
    cases hname : v.state.propertyFor? attr with
    | none =>
      simp only [hname] at hwrite
      obtain ⟨rfl, rfl⟩ := Prod.mk.inj hwrite
      exact ⟨hs, fun name _ _ h => by cases h⟩
    | some name =>
      simp only [hname] at hwrite
      obtain ⟨hkeeps, hwrote⟩ := setProperty_keeps hcode hwrite
      refine ⟨keeps_isStep.trans hs hkeeps, fun other hok _ h => ?_⟩
      obtain rfl := Option.some.inj h
      exact hwrote hok

/-! ## Updates -/

theorem finishUpdate_keeps (hcode : Advances (Keeps compares) code) (batch : List (String × V)) :
    Advances (Keeps compares) ((element nothing compares code).finishUpdate batch) := by
  have hlast : Advances (Keeps compares) (do
      (element nothing compares code).updated batch
      deliver ((element nothing compares code).notify · (batch.map (·.1)))
        (← (element nothing compares code).state.get).subscribers) := by
    refine .bind keeps_isStep (calling_keeps hcode trivial rfl rfl) fun _ => ?_
    refine .bind keeps_isStep (.read keeps_isStep _) fun s => ?_
    exact .deliver keeps_isStep fun _ _ => calling_keeps hcode trivial rfl rfl
  refine .bind keeps_isStep (.read keeps_isStep _) fun s => ?_
  refine .bind keeps_isStep (modify_keeps fun _ => rfl) fun _ => ?_
  refine .ite (fun _ => ?_) fun _ => hlast
  exact .bind keeps_isStep (calling_keeps hcode trivial rfl rfl) fun _ => hlast

theorem performUpdate_keeps (hcode : Advances (Keeps compares) code) {outcome : Except Fault Bool}
    (hrun : (element nothing compares code).performUpdate v (outcome, w)) :
    Keeps compares v w ∧ (v.state.isPending = true →
      ∃ later, w.history = v.history ++ .called .update v.state.changed :: later) := by
  have hbatch := read_bind.1 hrun
  cases hpending : v.state.isPending with
  | false =>
    simp only [hpending] at hbatch
    obtain ⟨rfl, rfl⟩ := Prod.mk.inj hbatch
    exact ⟨keeps_isStep.refl _, fun h => by cases h⟩
  | true =>
    simp only [hpending] at hbatch
    have htake : Ends ((element nothing compares code).state.modify ({ · with changed := [] })) v ()
        { v with state := { v.state with changed := [] } } :=
      .modify _ _ _ v
    obtain ⟨inner, t, hupdate, hrest⟩ := htake.bind_iff.1 hbatch
    -- The batch is handed out before code outside can change anything.
    have ht := keeps_isStep.trans (keeps_hand v)
      (Advances.anything hcode _ _ _ (change_bind.1 hupdate))
    have hfinish : Advances (Keeps compares) (do
        (element nothing compares code).finishUpdate v.state.changed
        return true) :=
      .bind keeps_isStep (finishUpdate_keeps hcode _) fun _ => .pure keeps_isStep _
    have hlater : Keeps compares t w := by
      cases inner with
      | ok _ => exact hfinish _ _ _ hrest
      | error f =>
        obtain ⟨rfl, rfl⟩ := Prod.mk.inj hrest
        exact keeps_isStep.refl _
    refine ⟨keeps_isStep.trans ht hlater, fun _ => ?_⟩
    have hhanded := (Advances.anything hcode _ _ _ (change_bind.1 hupdate)).history
    obtain ⟨later, hhistory⟩ := hhanded.trans hlater.history
    refine ⟨later, ?_⟩
    rw [← hhistory]
    simp [note]

/-! ## Runs -/

theorem requestUpdate_ends (w : ElementWorld V) (name : String) (old : V) :
    Ends ((element nothing compares code).requestUpdate name old) w ()
      { w.note (.requested name old) with state := w.state.record name old } :=
  .bind (.change _ w) (recordChange_ends _ name old)

theorem run_keeps (hcode : Advances (Keeps compares) code) (op : Operation V) :
    Advances (Keeps compares) (op.run nothing compares textValue code) := by
  have hperform : Advances (Keeps compares) (element nothing compares code).performUpdate :=
    fun _ _ _ hrun => (performUpdate_keeps hcode hrun).1
  cases op with
  | setProperty name value => exact fun _ _ _ hrun => (setProperty_keeps hcode hrun).1
  | setAttribute attr text => exact fun _ _ _ hrun => (setAttribute_keeps hcode hrun).1
  | removeAttribute attr => exact fun _ _ _ hrun => (removeAttribute_keeps hcode hrun).1
  | requestUpdate name old =>
    intro v outcome w hrun
    obtain ⟨-, rfl⟩ := Prod.mk.inj ((requestUpdate_ends v name old _).1 hrun)
    exact keeps_record trivial rfl rfl
  | performUpdate => exact .bind keeps_isStep hperform fun _ => .pure keeps_isStep _
  | flush limit =>
    refine .bind keeps_isStep ?_ fun _ => .pure keeps_isStep _
    exact Element.flush_advances keeps_isStep hperform limit
  | declare name attr => exact modify_keeps fun _ => rfl
  | subscribe listener => exact modify_keeps fun _ => rfl

theorem behave_keeps (depth : Nat) : Advances (Keeps compares) (behave nothing compares textValue depth) := by
  -- What is called at some depth does operations that call code of less depth.
  induction depth with
  | zero => exact .pure keeps_isStep ()
  | succ n ih => exact .often keeps_isStep (.choose fun op => run_keeps ih op)

theorem possibly_keeps (op : Operation V) : Advances (Keeps compares) (op.possibly nothing compares textValue) :=
  .choose fun depth => run_keeps (behave_keeps depth) op

theorem possibly_wrote {op : Operation V} {name : String} {new : V}
    (hwrite : op.write? nothing textValue v = some (name, new))
    (hrun : op.possibly nothing compares textValue v (.ok (), w)) : Wrote nothing name new v w := by
  obtain ⟨depth, hrun⟩ := hrun
  have hcode : Advances (Keeps compares) (behave nothing compares textValue depth) := behave_keeps depth
  cases op with
  | setProperty other value =>
    obtain ⟨rfl, rfl⟩ := Prod.mk.inj (Option.some.inj hwrite)
    exact (setProperty_keeps hcode hrun).2 rfl
  | setAttribute attr text =>
    obtain ⟨other, hfor, hname⟩ := Option.map_eq_some_iff.1 hwrite
    obtain ⟨rfl, rfl⟩ := Prod.mk.inj hname
    exact (setAttribute_keeps hcode hrun).2 _ rfl hfor
  | removeAttribute attr =>
    cases hhas : Entries.has v.state.attributes attr with
    | false => simp [Operation.write?, hhas] at hwrite
    | true =>
      obtain ⟨other, hfor, hname⟩ : ∃ other, v.state.propertyFor? attr = some other ∧
          (other, nothing) = (name, new) := by
        simpa [Operation.write?, hhas] using hwrite
      obtain ⟨rfl, rfl⟩ := Prod.mk.inj hname
      exact (removeAttribute_keeps hcode hrun).2 _ rfl hhas hfor
  | _ => cases hwrite

/-- Over any run of an element, its history falls apart into batches and what is pending. The
history leaves nothing out: a write that returns is the last thing that happened, an update that
is asked for is all that happened, and an update that finds something pending hands it out. -/
theorem batched_of_run {ops : List (Operation V)}
    (hrun : Runs (Operation.possibly nothing compares textValue) ops fresh w) :
    Batched w.history w.state.changed ∧
    (∀ name old new isChange, .written name old new isChange ∈ w.history →
      compares old new isChange) ∧
    ∀ (op : Operation V) (u x : ElementWorld V), op.possibly nothing compares textValue u (.ok (), x) →
      (∀ name new, op.write? nothing textValue u = some (name, new) → Wrote nothing name new u x) ∧
      (∀ name old, op = .requestUpdate name old → x.history = u.history ++ [.requested name old]) ∧
      (op = .performUpdate → u.state.isPending = true →
        ∃ later, x.history = u.history ++ .called .update u.state.changed :: later) := by
  have hkeeps := hrun.advances keeps_isStep fun op _ => possibly_keeps op
  have htrue := hkeeps.isTrue (List.forall_mem_nil _)
  refine ⟨hkeeps.batched (.rest rfl .nil), fun name old new isChange => htrue _, fun op u x hop => ⟨fun name new hwrite => ?_, ?_, ?_⟩⟩
  · exact possibly_wrote hwrite hop
  · rintro name old rfl
    obtain ⟨depth, hop⟩ := hop
    obtain ⟨-, rfl⟩ := Prod.mk.inj ((requestUpdate_ends u name old _).1 hop)
    rfl
  · rintro rfl hpending
    obtain ⟨depth, hop⟩ := hop
    obtain ⟨_, _, hperform, hlast⟩ := bind_ok hop
    obtain ⟨-, rfl⟩ := Prod.mk.inj hlast
    exact (performUpdate_keeps (behave_keeps depth) hperform).2 hpending

/-! ## A write during an update -/

/-- The world after a write that is a change. -/
def write (nothing : V) (name : String) (new : V) (w : ElementWorld V) : ElementWorld V :=
  let old := w.value nothing name
  { w.note (.written name old new true) with state := (w.state.store name new).record name old }

theorem behave_idle (depth : Nat) (w : ElementWorld V) :
    behave nothing compares textValue depth w (.ok (), w) := by
  cases depth with
  | zero => rfl
  | succ n => exact ⟨0, rfl⟩

/-- A write may be a change while code outside does nothing. -/
theorem setProperty_reaches (depth : Nat) {name : String} {new : V} {w : ElementWorld V}
    (hchange : compares (w.value nothing name) new true) :
    (Operation.setProperty name new).run nothing compares textValue
      (behave nothing compares textValue depth) w (.ok (), w.write nothing name new) := by
  let stored : ElementWorld V := { w with state := w.state.store name new }
  let compared := stored.note (.written name (w.value nothing name) new true)
  have hdiffers : (writtenElement nothing compares (behave nothing compares textValue depth)
      name).differs (w.value nothing name) new stored (.ok true, compared) :=
    ⟨.ok (), stored, ⟨.ok (), behave_idle depth _⟩, .ok true, stored, ⟨⟨true, hchange⟩, rfl⟩,
      .ok (), compared, rfl, rfl⟩
  refine ⟨.ok _, w, ⟨.ok _, _, rfl, rfl⟩, .ok (), stored, ⟨.ok _, _, rfl, rfl⟩, ?_⟩
  exact ⟨.ok true, compared, hdiffers, .ok _, _, rfl, rfl⟩

/-- Data are compared as they are. -/
def comparesData (old new : Datum) (isChange : Bool) : Prop :=
  Datum.differs old new = isChange

/-- What the operation may come to for an element whose values are data. -/
def possiblyData : Operation Datum → Possibly (ElementWorld Datum) Unit :=
  Operation.possibly .null comparesData .text

/-- An element whose property `size` was written twice. -/
def writtenTwice : ElementWorld Datum where
  state := { ElementState.empty with values := [("size", .int 2)], changed := [("size", .null)] }
  history := [.written "size" .null (.int 1) true, .written "size" (.int 1) (.int 2) true]

/-- The element after an update, during which the property was written once more. -/
def writtenDuringUpdate : ElementWorld Datum where
  state := { ElementState.empty with
    values := [("size", .int 3)]
    changed := [("size", .int 2)]
    hasUpdated := true }
  history := writtenTwice.history ++ [.called .update [("size", .null)],
    .written "size" (.int 2) (.int 3) true, .called .firstUpdated [("size", .null)],
    .called .updated [("size", .null)]]

theorem writtenDuringUpdate_reached :
    Runs possiblyData [.setProperty "size" (.int 1), .setProperty "size" (.int 2), .performUpdate]
      fresh writtenDuringUpdate := by
  let batch : List (String × Datum) := [("size", .null)]
  let code : Possibly (ElementWorld Datum) Unit := behave .null comparesData .text 1
  let taken : ElementWorld Datum :=
    { writtenTwice with state := { writtenTwice.state with changed := [] } }
  let handed := taken.note (.called .update batch)
  let rewritten := handed.write .null "size" (.int 3)
  let marked : ElementWorld Datum :=
    { rewritten with state := { rewritten.state with hasUpdated := true } }
  let told := marked.note (.called .firstUpdated batch)
  -- While the update hook runs, code outside does one thing.
  have hupdate : (element .null comparesData code).update batch taken (.ok (), rewritten) := by
    refine ⟨.ok (), handed, rfl, .ok (), 1, .ok (), rewritten, ?_, rfl⟩
    exact ⟨.setProperty "size" (.int 3), setProperty_reaches 0 rfl⟩
  have hfinish : (element .null comparesData code).finishUpdate batch rewritten
      (.ok (), writtenDuringUpdate) := by
    refine ⟨.ok _, _, rfl, .ok (), marked, ⟨.ok _, _, rfl, rfl⟩, ?_⟩
    refine ⟨.ok (), told, ⟨.ok (), _, rfl, .ok (), behave_idle 1 _⟩, ?_⟩
    exact ⟨.ok (), _, ⟨.ok (), _, rfl, .ok (), behave_idle 1 _⟩, .ok _, _, rfl, rfl⟩
  have hperform : possiblyData .performUpdate writtenTwice (.ok (), writtenDuringUpdate) := by
    refine ⟨1, .ok true, writtenDuringUpdate, ⟨.ok _, _, rfl, .ok (), _, ⟨.ok _, _, rfl, rfl⟩, ?_⟩, rfl⟩
    exact ⟨.ok (), _, hupdate, .ok (), _, hfinish, rfl⟩
  have hfirst : possiblyData (.setProperty "size" (.int 1)) fresh
      (.ok (), fresh.write .null "size" (.int 1)) := ⟨0, setProperty_reaches 0 rfl⟩
  have hsecond : possiblyData (.setProperty "size" (.int 2)) (fresh.write .null "size" (.int 1))
      (.ok (), writtenTwice) := ⟨0, setProperty_reaches 0 rfl⟩
  exact .cons hfirst (.cons hsecond (.cons hperform (.nil _)))

theorem batched_with_write_during_update :
    Runs possiblyData [.setProperty "size" (.int 1), .setProperty "size" (.int 2), .performUpdate]
        fresh writtenDuringUpdate ∧
      Batched writtenDuringUpdate.history [("size", .int 2)] :=
  ⟨writtenDuringUpdate_reached, (batched_of_run writtenDuringUpdate_reached).1⟩

end ElementWorld

end SceneBridge
