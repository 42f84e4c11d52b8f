import SceneBridge.Proofs.RecordMerge

/-!
# Entries that a text leaves out

A text is written to a property of a record type, and flushed. The target keeps its record, and what
the text does not mention stays in it, unless the type of the field makes a record of what is
missing: such a field is overwritten. Nobody has subscribed to the adapter.
-/

namespace SceneBridge.PlainWorld

open Possibly Conversion

variable {V C : Type} {H : Handling V} {d : AdapterDefinition (Held V)} {v w x y : PlainWorld V}
  {k : Surroundings (Except Fault) V C} {names : List String} {p : String} {place : Nat}
  {fields : List (String × TypeExpr)} {es : List (String × Datum)} {v₀ : V}

/-! ## What becomes of a field that is left out -/

/-- If `S` holds of an entry, `T` does after the converted fields were put into the record. -/
def MergeTurns (H : Handling V) (k : Surroundings (Except Fault) V C)
    (fields : List (String × TypeExpr)) (es : List (String × Datum)) (place : Nat) (key : String)
    (S T : Option (Held V) → Prop) : Prop :=
  ∀ rs u, convertFields k false (.data es) fields = .ok rs → place < u.records.length →
    S (u.entryOf? place key) → T (((held rs).foldl (merge H place) u).entryOf? place key)

theorem MergeTurns.keeps {key : String} {S : Option (Held V) → Prop}
    (h : MergeTurns H k fields es place key (fun _ => True) S) :
    MergeTurns H k fields es place key S S :=
  fun rs u hrs hplace _ => h rs u hrs hplace trivial

section Fields

variable (hk : TakesNothing k H.nothing H.isNothing) {key : String} (habsent : es.lookup key = none)

include hk habsent

theorem isNothing_of_absent {rs : List (String × V)}
    (hfields : convertFields k false (.data es) fields = .ok rs)
    (hkept : ∀ t, (key, t) ∈ fields → t.absence ≠ .record) {y : Held V} (hy : (key, y) ∈ held rs) :
    isNothing H y = true := by
  obtain ⟨r, hr, rfl⟩ := mem_held.1 hy
  obtain ⟨t, ht, hconvert⟩ := (mem_convertFields_absent hk hfields habsent r).1 hr
  have hbecomes := convertAs_becomes hk false t
  -- The field was converted, so its type did not refuse what is missing.
  cases habsence : t.absence with
  | stays =>
    rw [habsence] at hbecomes
    obtain rfl := Except.ok.inj (hbecomes.symm.trans hconvert)
    exact hk.missing
  | record => exact absurd habsence (hkept t ht)
  | refused =>
    rw [habsence] at hbecomes
    obtain ⟨f, hf⟩ := hbecomes
    cases hf.symm.trans hconvert

theorem mergeTurns_of_absent (hkept : ∀ t, (key, t) ∈ fields → t.absence ≠ .record)
    (found : Option (Held V)) :
    MergeTurns H k fields es place key (· = found) (· = found) := by
  intro rs u hrs _ hentry
  rw [entryOf?_foldl_merge_of_nothing fun z hz => isNothing_of_absent hk habsent hrs hkept hz]
  exact hentry

/-- The record that the type makes of what is missing takes the place of the entry. -/
theorem mergeTurns_of_record (hkeys : (fields.map (·.1)).Nodup) {t : TypeExpr}
    (ht : (key, t) ∈ fields) (habsence : t.absence = .record) :
    ∃ r, convertAs k false H.nothing t = .ok r ∧ H.isNothing r = false ∧
      MergeTurns H k fields es place key (fun _ => True) (· = some (.value r)) := by
  have hbecomes := convertAs_becomes hk false t
  rw [habsence] at hbecomes
  obtain ⟨made, r, hmade, hr⟩ := hbecomes
  have hsome := (hk.entries hmade).2
  refine ⟨r, hr, hsome, fun rs u hrs hplace _ => ?_⟩
  have hmem : (key, .value r) ∈ held rs :=
    mem_held.2 ⟨r, (mem_convertFields_absent hk hrs habsent r).2 ⟨t, ht, hr⟩, rfl⟩
  refine entryOf?_foldl_merge_of_mem hplace ?_ hmem hsome
  rw [held_keys, convertFields_keys hrs]
  exact hkeys

end Fields

/-! ## Writing the changes -/

/-- The adapter has the value for the property, and the target has the record. -/
structure Waits (H : Handling V) (d : AdapterDefinition (Held V)) (names : List String) (p : String)
    (place : Nat) (v₀ : V) (w : PlainWorld V) : Prop extends Guards H d names p place w where
  value : w.value H p = .value v₀

theorem Waits.taken (h : Waits H d names p place v₀ w) : Waits H d names p place v₀ w.taken :=
  ⟨⟨h.held, h.known, h.alone⟩, h.value⟩

section Writing

variable (hH : Converts H k) (hk : TakesNothing k H.nothing H.isNothing)
  (ht : HoldsText H d k p fields es v₀)

include hH hk ht

/-- A change leaves the record alone, or puts the converted fields into it. -/
theorem applyChange_waits (h : Waits H d names p place v₀ w) {q : String} (hq : q ∈ names)
    {outcome : Except Fault (Option Fault)}
    (hrun : (notingAdapter H d).applyChange .target q w (outcome, x)) :
    Waits H d names p place v₀ x ∧ (x.records.getD place [] = w.records.getD place [] ∨
      ∃ rs, convertFields k false (.data es) fields = .ok rs ∧
        x = (held rs).foldl (merge H place) w) := by
  by_cases hne : q = p
  · subst hne
    rcases applyChange_text hH hk ht h.value h.toGuards hrun with ⟨-, rfl⟩ | ⟨rs, hrs, -, rfl⟩
    · exact ⟨h, .inl rfl⟩
    · -- Neither the adapter nor any attribute changes, only entries of the record.
      have hmerge := foldl_merge_isMerge (H := H) place w (held rs)
      refine ⟨⟨⟨?_, ?_, fun q' hq' hother info declared hplain htype => ?_⟩, ?_⟩, .inr ⟨rs, hrs, rfl⟩⟩
      · rw [hmerge.attributes]
        exact h.held
      · rw [hmerge.size]
        exact h.known
      · rw [targetValue, hmerge.attributes]
        exact h.alone q' hq' hother info declared hplain htype
      · rw [PlainWorld.value, hmerge.element]
        exact h.value
  · obtain ⟨hguards, hsame⟩ := applyChange_guards hH h.toGuards hq hne hrun
    obtain ⟨helement, -⟩ := applyChange_keepsAdapter _ _ _ _ _ hrun
    refine ⟨⟨hguards, ?_⟩, .inl hsame⟩
    rw [PlainWorld.value, helement]
    exact h.value

theorem Writes.waits {inner : Except Fault (List Fault)} {batch : List String}
    (hsub : ∀ q ∈ batch, q ∈ names) (hwrites : Writes H d batch w inner x)
    (h : Waits H d names p place v₀ w) : Waits H d names p place v₀ x := by
  have hR := IsStep.of_invariant (Waits H d names p place v₀)
  have hall := Advances.filterMapM hR fun q hq w outcome x hrun h =>
    (applyChange_waits hH hk ht h (hsub q hq) hrun).1
  exact hall _ _ _ hwrites h

theorem Writes.keepsEntry {key : String} {S : Option (Held V) → Prop}
    (hS : MergeTurns H k fields es place key S S) {inner : Except Fault (List Fault)}
    {batch : List String} (hsub : ∀ q ∈ batch, q ∈ names) (hwrites : Writes H d batch w inner x)
    (h : Waits H d names p place v₀ w) (hentry : S (w.entryOf? place key)) :
    S (x.entryOf? place key) := by
  -- That the record is there has to be kept along: the fields are put into no other.
  let P (w : PlainWorld V) : Prop := Waits H d names p place v₀ w ∧ S (w.entryOf? place key)
  have hone (q : String) (hq : q ∈ batch) :
      Advances (fun v w => P v → P w) ((notingAdapter H d).applyChange .target q) := by
    rintro w outcome x hrun ⟨h, hentry⟩
    obtain ⟨hwaits, hsame | ⟨rs, hrs, rfl⟩⟩ := applyChange_waits hH hk ht h (hsub q hq) hrun
    · refine ⟨hwaits, ?_⟩
      rw [entryOf?, hsame]
      exact hentry
    · exact ⟨hwaits, hS rs w hrs h.known hentry⟩
  have hall := Advances.filterMapM (.of_invariant P) hone
  exact (hall _ _ _ hwrites ⟨h, hentry⟩).2

/-- If no change failed, the fields were put into the record. -/
theorem Writes.setsEntry {key : String} {S : Option (Held V) → Prop}
    (hset : MergeTurns H k fields es place key (fun _ => True) S) {batch : List String}
    (hsub : ∀ q ∈ batch, q ∈ names) (hp : p ∈ batch) (hwrites : Writes H d batch w (.ok []) x)
    (h : Waits H d names p place v₀ w) : S (x.entryOf? place key) := by
  induction batch generalizing w with
  | nil => cases hp
  | cons q batch ih =>
    have hlater := fun r hr => hsub r (List.mem_cons_of_mem _ hr)
    rcases hwrites.cons with ⟨f, hf, -⟩ | ⟨found, u, rest, hfirst, hrest, hinner⟩
    · cases hf
    obtain ⟨rfl, rfl⟩ : found = none ∧ rest = .ok [] := by
      cases rest with
      | error f => cases hinner
      | ok gs =>
        have happend := List.append_eq_nil_iff.1 (Except.ok.inj hinner).symm
        exact ⟨by simpa using happend.1, congrArg _ happend.2⟩
    obtain ⟨hwaits, -⟩ := applyChange_waits hH hk ht h (hsub q List.mem_cons_self) hfirst
    by_cases hq : q = p
    · subst hq
      rcases applyChange_text hH hk ht h.value h.toGuards hfirst with ⟨hfail, -⟩ | ⟨rs, hrs, -, rfl⟩
      · exact absurd rfl hfail
      · -- Later changes put the fields into the record once more, or leave it alone.
        exact Writes.keepsEntry hH hk ht hset.keeps hlater hrest hwaits
          (hset rs w hrs h.known trivial)
    · refine ih hlater ?_ hrest hwaits
      exact (List.mem_cons.1 hp).resolve_left (Ne.symm hq)

theorem flush_keepsRecord (htarget : w.state.target = some .target)
    (h : Waits H d w.changedNames p place v₀ w) {limit : Nat} {outcome : Except Fault Unit}
    (hrun : (Operation.flush limit).run H d w (outcome, x)) :
    x.attributes.lookup p = some (.record place) := by
  rcases flush_cases htarget hrun with ⟨-, rfl⟩ | ⟨inner, u, hwrites, -, -, hx⟩
  · exact h.held
  · rw [hx.attributes]
    exact (Writes.waits hH hk ht (fun _ hq => hq) hwrites h.taken).held

theorem flush_keepsEntry {key : String} {S : Option (Held V) → Prop}
    (hS : MergeTurns H k fields es place key S S) (htarget : w.state.target = some .target) (h : Waits H d w.changedNames p place v₀ w)
    {limit : Nat} {outcome : Except Fault Unit}
    (hrun : (Operation.flush limit).run H d w (outcome, x)) (hentry : S (w.entryOf? place key)) :
    S (x.entryOf? place key) := by
  rcases flush_cases htarget hrun with ⟨-, rfl⟩ | ⟨inner, u, hwrites, -, -, hx⟩
  · exact hentry
  · rw [entryOf?, hx.records]
    exact Writes.keepsEntry hH hk ht hS (fun _ hq => hq) hwrites h.taken hentry

theorem flush_setsEntry {key : String} {S : Option (Held V) → Prop}
    (hset : MergeTurns H k fields es place key (fun _ => True) S)
    (htarget : w.state.target = some .target) (h : Waits H d w.changedNames p place v₀ w)
    (hp : p ∈ w.changedNames) {limit : Nat} (hlimit : limit ≠ 0)
    (hrun : (Operation.flush limit).run H d w (.ok (), x)) : S (x.entryOf? place key) := by
  rcases flush_cases htarget hrun with ⟨hidle, -⟩ | ⟨inner, u, hwrites, -, hinner, hx⟩
  · rw [hidle.resolve_left hlimit] at hp
    cases hp
  · rw [hinner rfl] at hwrites
    rw [entryOf?, hx.records]
    exact Writes.setsEntry hH hk ht hset (fun _ hq => hq) hp hwrites h.taken

end Writing

/-! ## Writing properties -/

/-- The target is as it was, and so is what the attributes of the adapter stand for. -/
structure LeavesTarget (w x : PlainWorld V) : Prop where
  declared : x.element.declared = w.element.declared
  target : x.state.target = w.state.target
  attributes : x.attributes = w.attributes
  records : x.records = w.records

theorem LeavesTarget.trans {u : PlainWorld V} (h₁ : LeavesTarget w u) (h₂ : LeavesTarget u x) :
    LeavesTarget w x :=
  ⟨h₂.declared.trans h₁.declared, h₂.target.trans h₁.target, h₂.attributes.trans h₁.attributes,
    h₂.records.trans h₁.records⟩

theorem written_leavesTarget (w : PlainWorld V) (q : String) (z : Held V) :
    LeavesTarget w (written H w q z) := by
  unfold written ElementState.record ElementState.store
  split
  · refine ⟨?_, ?_, rfl, rfl⟩
    · dsimp only
      split <;> rfl
    · dsimp only
      split <;> rfl
  · exact ⟨rfl, rfl, rfl, rfl⟩

theorem noted_leavesTarget (w : PlainWorld V) (op : Operation V) : LeavesTarget w (op.noted w) := by
  cases op <;> exact ⟨rfl, rfl, rfl, rfl⟩

theorem noted_changedNames (w : PlainWorld V) (op : Operation V) :
    (op.noted w).changedNames = w.changedNames := by
  cases op <;> rfl

theorem noted_value (w : PlainWorld V) (op : Operation V) (q : String) :
    (op.noted w).value H q = w.value H q := by
  cases op <;> rfl

theorem noted_records (w : PlainWorld V) (op : Operation V) : (op.noted w).records = w.records :=
  (noted_leavesTarget w op).records

namespace Operation

/-- The operation writes no property that is computed, and hands out no changes. -/
structure IsWrite (H : Handling V) (d : AdapterDefinition (Held V)) (w : PlainWorld V)
    (op : Operation V) : Prop where
  waiting : op.isFlush = false
  stored : ∀ q z, op.write? H w = some (q, z) → d.metadata.computed.lookup q = none

/-- The operation does not write the property. -/
def IsAside (H : Handling V) (w : PlainWorld V) (p : String) (op : Operation V) : Prop :=
  ∀ q z, op.write? H w = some (q, z) → q ≠ p

theorem write?_of_declared {op : Operation V} (h : x.element.declared = w.element.declared) :
    op.write? H x = op.write? H w := by
  cases op with
  | setAttribute attr text =>
    unfold write? ElementState.propertyFor?
    rw [h]
  | _ => rfl

theorem later_aside {op : Operation V} (hdeclared : x.element.declared = w.element.declared)
    (h : op.IsWrite H d w ∧ op.IsAside H w p) : op.IsWrite H d x ∧ op.IsAside H x p := by
  obtain ⟨hwrite, haside⟩ := h
  have hsame : op.write? H x = op.write? H w := write?_of_declared hdeclared
  refine ⟨⟨hwrite.waiting, fun q z hq => ?_⟩, fun q z hq => ?_⟩
  · exact hwrite.stored q z (hsame.symm.trans hq)
  · exact haside q z (hsame.symm.trans hq)

end Operation

section Run

variable {op : Operation V} (htarget : w.state.target = some .target) (hop : op.IsWrite H d w)
  {outcome : Except Fault Unit} (hrun : op.run H d w (outcome, x))

include htarget hop hrun

theorem write_leavesTarget : LeavesTarget w x := by
  obtain ⟨-, rfl⟩ := Prod.mk.inj ((write_ends htarget hop.waiting hop.stored _).1 hrun)
  have hnoted := noted_leavesTarget w op
  split
  · exact hnoted.trans (written_leavesTarget _ _ _)
  · exact hnoted

/-- The value is kept that was written, and a change is noted. -/
theorem write_self {z : Held V} (hwrite : op.write? H w = some (p, z)) :
    x.value H p = z ∧
      (p ∈ w.changedNames ∨ H.differs w.records (w.value H p) z = true → p ∈ x.changedNames) := by
  obtain ⟨-, rfl⟩ := Prod.mk.inj ((write_ends htarget hop.waiting hop.stored _).1 hrun)
  rw [hwrite]
  dsimp only
  rw [written_value, if_pos rfl, mem_changedNames_written, noted_changedNames, noted_value,
    noted_records]
  exact ⟨rfl, fun h => h.imp_right fun hdiffers => ⟨rfl, hdiffers⟩⟩

/-- A property that is not written keeps its value, and its change stays noted. -/
theorem write_aside (haside : op.IsAside H w p) :
    x.value H p = w.value H p ∧ (p ∈ w.changedNames → p ∈ x.changedNames) := by
  obtain ⟨-, rfl⟩ := Prod.mk.inj ((write_ends htarget hop.waiting hop.stored _).1 hrun)
  split
  · rename_i q z hwrite
    rw [written_value, if_neg (Ne.symm (haside q z hwrite)), mem_changedNames_written,
      noted_changedNames, noted_value]
    exact ⟨rfl, .inl⟩
  · rw [noted_changedNames, noted_value]
    exact ⟨rfl, id⟩

end Run

theorem runs_aside {ops : List (Operation V)} (htarget : w.state.target = some .target)
    (hops : ∀ op ∈ ops, op.IsWrite H d w ∧ op.IsAside H w p)
    (hrun : Runs (Operation.run H d) ops w x) :
    LeavesTarget w x ∧ x.value H p = w.value H p ∧ (p ∈ w.changedNames → p ∈ x.changedNames) := by
  induction hrun with
  | nil w => exact ⟨⟨rfl, rfl, rfl, rfl⟩, rfl, id⟩
  | @cons op ops w u x outcome hfirst _ ih =>
    obtain ⟨⟨hop, haside⟩, hrest⟩ := List.forall_mem_cons.1 hops
    have hleaves := write_leavesTarget htarget hop hfirst
    obtain ⟨hvalue, hnoted⟩ := write_aside htarget hop hfirst haside
    have hlater := fun op hop => Operation.later_aside hleaves.declared (hrest op hop)
    obtain ⟨hleaves', hvalue', hnoted'⟩ := ih (hleaves.target.trans htarget) hlater
    exact ⟨hleaves.trans hleaves', hvalue'.trans hvalue, hnoted' ∘ hnoted⟩

/-! ## What the text leaves out -/

theorem Guards.of_leavesTarget (h : Guards H d names p place w) (hx : LeavesTarget w x) :
    Guards H d names p place x where
  held := by
    rw [hx.attributes]
    exact h.held
  known := by
    rw [hx.records]
    exact h.known
  alone q hq hne info declared hplain htype := by
    rw [targetValue, hx.attributes]
    exact h.alone q hq hne info declared hplain htype

/-- The text of a record is written to a property of a record type of an adapter without
subscribers, and flushed, with any writes to other properties between. However the flush ends, the
target has the same record, and the entries that the text does not mention are as before, those of
declared fields too unless the type of the field makes a record of what is missing. Such a field is
overwritten by that record in a flush without a failure. -/
theorem left_out_stays_unless_record (hH : Converts H k)
    (hk : TakesNothing k H.nothing H.isNothing)
    (htarget : w.state.target = some .target) {info : PropertyInfo} (hplain : IsPlain d p info)
    (htype : info.type = .record fields) {s : String} (hread : Json.read s.toList = .ok (.record es))
    {op : Operation V} (hop : op.IsWrite H d w)
    (hwrite : op.write? H w = some (p, .value (H.ofText s))) {span : List (Operation V)}
    (hspan : ∀ op ∈ span, op.IsWrite H d w ∧ op.IsAside H w p)
    (hrun : Runs (Operation.run H d) (op :: span) w y)
    (hguards : Guards H d y.changedNames p place w) {limit : Nat} {outcome : Except Fault Unit}
    (hflush : (Operation.flush limit).run H d y (outcome, x)) :
    x.attributes.lookup p = some (.record place) ∧
    (∀ key, es.lookup key = none → (∀ t, (key, t) ∈ fields → t.absence ≠ .record) →
      x.entryOf? place key = w.entryOf? place key) ∧
    (limit ≠ 0 → outcome = .ok () → (fields.map (·.1)).Nodup →
      p ∈ w.changedNames ∨ H.differs w.records (w.value H p) (.value (H.ofText s)) = true →
      ∀ key t, es.lookup key = none → (key, t) ∈ fields → t.absence = .record →
        ∃ r, convertAs k false H.nothing t = .ok r ∧ H.isNothing r = false ∧
          x.entryOf? place key = some (.value r)) := by
  cases hrun with
  | @cons _ _ _ u _ _ hfirst hrest =>
  have hleaves := write_leavesTarget htarget hop hfirst
  obtain ⟨hvalue, hnoted⟩ := write_self htarget hop hfirst hwrite
  have hlater := fun op hop => Operation.later_aside hleaves.declared (hspan op hop)
  obtain ⟨hleaves', hvalue', hnoted'⟩ := runs_aside (hleaves.target.trans htarget) hlater hrest
  -- Up to the flush, the target is as it was, and the text is the value of the property.
  have hup := hleaves.trans hleaves'
  have htext : HoldsText H d k p fields es (H.ofText s) :=
    ⟨⟨info, hplain, htype⟩, ⟨s, hH.text s, hread⟩⟩
  have hwaits : Waits H d y.changedNames p place (H.ofText s) y :=
    ⟨hguards.of_leavesTarget hup, hvalue'.trans hvalue⟩
  have hready := hup.target.trans htarget
  refine ⟨?_, fun key habsent hkept => ?_, fun hlimit hok hkeys hchanged key t habsent hmem habsence => ?_⟩
  · exact flush_keepsRecord hH hk htext hready hwaits hflush
  · have hsame : y.entryOf? place key = w.entryOf? place key := by rw [entryOf?, entryOf?, hup.records]
    have hkeeps : MergeTurns H k fields es place key _ _ :=
      mergeTurns_of_absent hk habsent hkept (w.entryOf? place key)
    have hentry := flush_keepsEntry hH hk htext hkeeps hready hwaits hflush hsame
    exact hentry
  · obtain ⟨r, hr, hsome, hsets⟩ := mergeTurns_of_record hk habsent hkeys hmem habsence
    subst hok
    have hpending := hnoted' (hnoted hchanged)
    exact ⟨r, hr, hsome, flush_setsEntry hH hk htext hsets hready hwaits hpending hlimit hflush⟩

/-! ## A record that is overwritten -/

theorem dataSurroundings_takesNothing :
    TakesNothing dataSurroundings .null Handling.ofData.isNull where
  see := rfl
  ofDatum := rfl
  missing := rfl
  record es := ⟨.record es, rfl⟩
  entries {es r} hr := by
    obtain rfl := Except.ok.inj hr
    exact ⟨rfl, rfl⟩
  note _ := rfl

theorem ofData_converts (traced : Bool) : Converts (.ofData traced) dataSurroundings :=
  .ofSurroundings (fun _ => rfl) (fun _ => rfl) _ _ _ _ _ _

/-- The fields of the options of a shape: a position, and a name. -/
def shapeFields : List (String × TypeExpr) :=
  [("pos", .record [("x", .scalar "number"), ("y", .scalar "number")]), ("name", .scalar "string")]

/-- Adapters of a class whose only property is a record of options. -/
def shapeDefinition : AdapterDefinition (Held Datum) where
  className := "Shape"
  metadata := { Metadata.empty with properties := [("options", ⟨"options", .record shapeFields, ""⟩)] }
  attributes := ["options"]
  methods := []
  statics := []
  eventPrefix := "on-"
  shadowed := []

/-- A new adapter of a shape that has a position, a name, and a color that is not declared. -/
def shapeWorld : PlainWorld Datum where
  element := { ElementState.empty with
    values := [("options", .record 0)], declared := [("options", some "options")] }
  state := ⟨.constructed, [], some .target⟩
  attributes := [("options", .record 0)]
  records := [[("pos", .value (.record [("x", .int 1), ("y", .int 2)])),
    ("name", .value (.text "a")), ("color", .value (.text "red"))]]

/-- The options that are written: a name and nothing else. -/
def nameText : String := "\x7b\"name\": \"b\"\x7d"

/-- The adapter after the options were written. -/
def namedWorld : PlainWorld Datum :=
  written (.ofData false) (Operation.noted shapeWorld (.setAttribute "options" nameText)) "options"
    (.value (.text nameText))

/-- The adapter after the options were written and flushed. -/
def movedWorld : PlainWorld Datum :=
  finished (updated (List.foldl (merge (.ofData false) 0) namedWorld.taken
    [("pos", .value (.record [("x", .null), ("y", .null)])), ("name", .value (.text "b"))]))

theorem shape_isPlain : IsPlain shapeDefinition "options" ⟨"options", .record shapeFields, ""⟩ where
  known := rfl
  shown := rfl

theorem nameText_read : Json.read nameText.toList = .ok (.record [("name", .text "b")]) := rfl

theorem setAttribute_isWrite :
    (Operation.setAttribute "options" nameText).IsWrite (.ofData false) shapeDefinition shapeWorld where
  waiting := rfl
  stored _ _ _ := rfl

theorem setAttribute_reaches :
    (Operation.setAttribute "options" nameText).run (.ofData false) shapeDefinition shapeWorld
      (.ok (), namedWorld) :=
  (write_ends rfl setAttribute_isWrite.waiting setAttribute_isWrite.stored _).2 rfl

theorem nameText_converted :
    namedWorld.taken.converted (.ofData false) "options" ⟨"options", .record shapeFields, ""⟩ =
      .ok (.value (.record [("pos", .record [("x", .null), ("y", .null)]), ("name", .text "b")])) := by
  have hvalue : namedWorld.taken.value (.ofData false) "options" = .value (.text nameText) := rfl
  rw [converted, hvalue, (ofData_converts false).convert, convertAs_record_text rfl nameText_read]
  rfl

theorem flush_reaches : (Operation.flush 16).run (.ofData false) shapeDefinition namedWorld
    (.ok (), movedWorld) := by
  have happly := applyChange_ends_of_record shape_isPlain rfl nameText_converted rfl rfl
  exact (flush_iff rfl rfl).2 ⟨.ok [], _, .of_ends happly rfl, rfl⟩

/-- The color stays, and the position is lost. -/
theorem position_lost_without_mention :
    movedWorld.attributes.lookup "options" = some (.record 0) ∧
      movedWorld.entryOf? 0 "color" = some (.value (.text "red")) ∧
      shapeWorld.entryOf? 0 "pos" = some (.value (.record [("x", .int 1), ("y", .int 2)])) ∧
      movedWorld.entryOf? 0 "pos" = some (.value (.record [("x", .null), ("y", .null)])) := by
  have hguards : Guards (.ofData false) shapeDefinition namedWorld.changedNames "options" 0
      shapeWorld := by
    refine ⟨rfl, by decide, fun q hq hne => ?_⟩
    have hnames : namedWorld.changedNames = ["options"] := rfl
    rw [hnames, List.mem_singleton] at hq
    exact absurd hq hne
  have hrun : Runs (Operation.run (.ofData false) shapeDefinition)
      [.setAttribute "options" nameText] shapeWorld namedWorld :=
    .cons setAttribute_reaches (.nil _)
  obtain ⟨hplace, hkept, hlost⟩ := left_out_stays_unless_record (ofData_converts false)
    dataSurroundings_takesNothing rfl shape_isPlain rfl nameText_read setAttribute_isWrite rfl
    (List.forall_mem_nil _) hrun hguards flush_reaches
  refine ⟨hplace, ?_, rfl, ?_⟩
  · exact hkept "color" rfl (by simp [shapeFields])
  · obtain ⟨r, hr, -, hpos⟩ := hlost (Nat.succ_ne_zero 15) rfl (by decide) (.inr rfl) "pos" _ rfl
      List.mem_cons_self rfl
    obtain rfl := Except.ok.inj hr
    exact hpos

end SceneBridge.PlainWorld
