import SceneBridge.Convert.Plain
import SceneBridge.Proofs.AdapterSteps

/-!
# An adapter and a plain target

An adapter whose target is a plain object: its attributes are read and written without any other
effect, and nobody but the adapter writes them, unless it is a subscriber of the adapter. Attributes
may hold open records, which are kept by their places. How values are compared and converted is left
open.
-/

namespace SceneBridge

open Possibly

/-! ## Values -/

/-- What the adapter handles: its target, the open record at a place, or any other value. -/
inductive Held (V : Type) where
  | target
  | record (place : Nat)
  | value (v : V)
deriving DecidableEq

/-- Are both the target, or the same open record? -/
def Held.same {V : Type} : Held V → Held V → Bool
  | .target, .target => true
  | .record p, .record q => p == q
  | _, _ => false

/-- The entries of the open records, by their places. -/
abbrev Records (V : Type) := List (List (String × Held V))

/-- How values are handled. -/
structure Handling (V : Type) where
  nothing : V
  isNothing : V → Bool
  ofText : String → V
  /-- Does the new value count as a change? -/
  differs : Records V → (old new : Held V) → Bool
  convert : Records V → Held V → TypeExpr → Except Fault (Held V)
  /-- The entries of a value that is a record. -/
  entries? : V → Option (List (String × V))

namespace Handling

/-- Values that are converted in the surroundings `k`. The target is handled as the value `self`,
and an open record as the value that `ofRecord` makes of its entries. -/
def ofSurroundings {V C : Type} (k : Surroundings (Except Fault) V C) (traced : Bool)
    (nothing self : V) (isNothing : V → Bool) (ofText : String → V) (differs : V → V → Bool)
    (ofRecord : List (String × Held V) → V) : Handling V where
  nothing
  isNothing
  ofText
  differs := fun rs old new => !old.same new && differs (content rs old) (content rs new)
  convert := fun rs x t => .value <$> (k.convert traced (content rs x) t).1
  entries? := fun v =>
    match k.entries? v with
    | .ok es => es
    | .error _ => none
where
  /-- The value that is held. -/
  content (rs : Records V) : Held V → V
    | .target => self
    | .record place => ofRecord (rs.getD place [])
    | .value v => v

/-- How data is handled. -/
def ofData (traced : Bool) : Handling Datum :=
  ofSurroundings dataSurroundings traced .null (.token "target") isNull .text Datum.differs fun es =>
    .record (es.filterMap entry?)
where
  isNull : Datum → Bool
    | .null => true
    | _ => false
  /-- The entry of a record as data. -/
  entry? : String × Held Datum → Option (String × Datum)
    | (key, .value v) => some (key, v)
    | _ => none

end Handling

/-! ## The world -/

/-- An adapter and its target. -/
structure PlainWorld (V : Type) where
  element : ElementState (Held V) (Held V)
  state : AdapterState (Held V)
  /-- The attributes of the target. -/
  attributes : List (String × Held V)
  records : Records V

namespace PlainWorld

variable {V : Type}

/-- The value that the adapter keeps for a property. -/
def value (H : Handling V) (w : PlainWorld V) (name : String) : Held V :=
  (w.element.values.lookup name).getD (.value H.nothing)

/-- The attribute of the target; nothing if it has none. -/
def targetValue (H : Handling V) (w : PlainWorld V) (name : String) : Held V :=
  (w.attributes.lookup name).getD (.value H.nothing)

/-- Is the value nothing? -/
def isNothing (H : Handling V) : Held V → Bool
  | .value v => H.isNothing v
  | _ => false

/-- The entries of a value that is a record, open or not. -/
def fields? (H : Handling V) (w : PlainWorld V) : Held V → Option (List (String × Held V))
  | .value v => (H.entries? v).map fun es => es.map fun (key, v) => (key, .value v)
  | .record place => some (w.records.getD place [])
  | .target => none

/-- The target with another value of an attribute. -/
def put (w : PlainWorld V) (name : String) (x : Held V) : PlainWorld V :=
  { w with attributes := Entries.put w.attributes name x }

/-- One more open record. -/
def add (w : PlainWorld V) (es : List (String × Held V)) : PlainWorld V :=
  { w with records := w.records ++ [es] }

/-- The entry of the record at a place. -/
def entryOf? (w : PlainWorld V) (place : Nat) (key : String) : Option (Held V) :=
  (w.records.getD place []).lookup key

/-- The record at a place with another value of an entry. -/
def putEntry (w : PlainWorld V) (place : Nat) (key : String) (x : Held V) : PlainWorld V :=
  { w with records := w.records.modify place (Entries.put · key x) }

/-! ## The adapter -/

section Adapter

variable (H : Handling V) (d : AdapterDefinition (Held V))

/-- What is asked of a value that has no members. -/
def refuse {α : Type} (name : String) : Possibly (PlainWorld V) α :=
  throwThe Fault (.basic .attribute ("no attribute " ++ name))

/-- The adapter without the steps from one of its operations to another. -/
def bareAdapter : Adapter (Possibly (PlainWorld V)) (Held V) (Held V) where
  definition := d
  element := {
    state := cell PlainWorld.element fun s w => { w with element := s }
    nothing := .value H.nothing
    differs := fun old new => read fun w => H.differs w.records old new
    setProperty := fun _ _ => pure ()
    requestUpdate := fun _ _ => pure ()
    update := fun _ => pure ()
    firstUpdated := fun _ => pure ()
    updated := fun _ => pure ()
    notify := fun _ _ => pure () }
  state := cell PlainWorld.state fun s w => { w with state := s }
  self := .value H.nothing
  member := fun v name => do
    match v, (← read PlainWorld.attributes).lookup name with
    | .target, some x => return x
    | _, _ => refuse name
  peek := fun v name =>
    match v with
    | .target => read (targetValue H · name)
    | _ => pure (.value H.nothing)
  setMember := fun v name x =>
    match v with
    | .target => change (·.put name x)
    | _ => refuse name
  convert := fun v t => result fun w => H.convert w.records v t
  isNothing := isNothing H
  same := Held.same
  entries? := fun v => read (fields? H · v)
  newRecord := fun es => do
    let place ← read (·.records.length)
    change (·.add es)
    return .record place
  isOpenRecord := fun
    | .record _ => pure true
    | _ => pure false
  setEntry := fun v key x =>
    match v with
    | .record place => change (·.putEntry place key x)
    | _ => refuse key
  isCallable := fun _ => pure false
  call := fun _ _ _ => refuse "call"
  textValue := fun s => .value (H.ofText s)
  handler := fun event => .value (H.ofText event)
  dispatch := fun _ _ => pure ()
  disposeSelf := pure ()

/-- The adapter that notes the changes it is told of. -/
def notingAdapter : Adapter (Possibly (PlainWorld V)) (Held V) (Held V) :=
  { bareAdapter H d with
    element := { (bareAdapter H d).element with requestUpdate := (bareAdapter H d).requestUpdate } }

/-- The adapter whose attributes set its properties and whose updates write to the target. Nobody
is told of its updates. -/
def adapter : Adapter (Possibly (PlainWorld V)) (Held V) (Held V) :=
  { notingAdapter H d with
    element := { (notingAdapter H d).element with
      setProperty := (notingAdapter H d).setProperty
      update := fun changed => (notingAdapter H d).update (changed.map (·.1)) }
    disposeSelf := (notingAdapter H d).dispose }

/-- The adapter with subscribers that do as `tell` says when they are told of changed names. -/
def tellingAdapter (tell : Held V → List String → Possibly (PlainWorld V) Unit) :
    Adapter (Possibly (PlainWorld V)) (Held V) (Held V) :=
  { adapter H d with element := { (adapter H d).element with notify := tell } }

end Adapter

/-! ## Operations -/

/-- What is asked of the adapter. -/
inductive Operation (V : Type) where
  | setProperty (name : String) (value : Held V)
  | setAttribute (attr text : String)
  | flush (limit : Nat)

/-- What the operation does. -/
def Operation.run (H : Handling V) (d : AdapterDefinition (Held V)) :
    Operation V → Possibly (PlainWorld V) Unit
  | setProperty name value => (adapter H d).setProperty name value
  | setAttribute attr text =>
    (adapter H d).element.setAttribute attr text (.value (H.ofText text))
  | flush limit => do let _ ← (adapter H d).element.flush limit

/-- Does the operation hand out changes? -/
def Operation.isFlush : Operation V → Bool
  | flush _ => true
  | _ => false

/-- The property that the operation writes, and the value that it writes. -/
def Operation.write? (H : Handling V) (w : PlainWorld V) : Operation V → Option (String × Held V)
  | setProperty name value => some (name, value)
  | setAttribute attr text => (w.element.propertyFor? attr).map (·, .value (H.ofText text))
  | flush _ => none

/-- The adapter after the operation was asked for, before it writes a property. -/
def Operation.noted (w : PlainWorld V) : Operation V → PlainWorld V
  | setAttribute attr text =>
    { w with element := { w.element with attributes := Entries.put w.element.attributes attr text } }
  | _ => w

/-! ## Writing properties -/

variable {H : Handling V} {d : AdapterDefinition (Held V)} {w : PlainWorld V}

/-- The adapter after a property was written that is not computed. -/
def written (H : Handling V) (w : PlainWorld V) (name : String) (x : Held V) : PlainWorld V :=
  let u := { w with element := w.element.store name x }
  if H.differs w.records (w.value H name) x then
    { u with
      element := u.element.record name (w.value H name)
      state :=
        if w.state.phase = .bound ∨ w.state.phase = .converted then
          { w.state with phase := .observed }
        else w.state }
  else u

theorem requireTarget_ends {t : Held V} (h : w.state.target = some t) :
    Ends (adapter H d).requireTarget w t w :=
  (adapter H d).requireTarget_ends (.read _ w) h

theorem storeProperty_ends (name : String) (x : Held V) :
    Ends ((adapter H d).element.storeProperty name x) w () (written H w name x) := by
  let u := { w with element := w.element.store name x }
  have hdiffers : Ends ((adapter H d).element.differs (w.value H name) x) u
      (H.differs w.records (w.value H name) x) u := .read _ u
  refine .bind (.bind (.read _ w) (.pure _ w)) (.bind (.modify _ _ _ w) (.bind hdiffers ?_))
  unfold written
  split
  · exact .bind (.modify _ _ _ u) (.modify _ _ _ _)
  · exact .pure () u

theorem setProperty_ends {t : Held V} (htarget : w.state.target = some t) {name : String}
    (hcomputed : d.metadata.computed.lookup name = none) (x : Held V) :
    Ends ((adapter H d).setProperty name x) w () (written H w name x) := by
  refine .bind (requireTarget_ends htarget) ?_
  split
  · rename_i info hinfo
    rw [show (adapter H d).definition = d from rfl, hcomputed] at hinfo
    cases hinfo
  · exact storeProperty_ends name x

/-- A write comes to the property that it is for. -/
theorem write_ends {t : Held V} (htarget : w.state.target = some t) {op : Operation V}
    (hflush : op.isFlush = false)
    (hstored : ∀ q y, op.write? H w = some (q, y) → d.metadata.computed.lookup q = none) :
    Ends (op.run H d) w () (match op.write? H w with
      | some (q, y) => written H (op.noted w) q y
      | none => op.noted w) := by
  cases op with
  | setProperty name value => exact setProperty_ends htarget (hstored name value rfl) value
  | setAttribute attr text =>
    let u := Operation.noted w (.setAttribute attr text)
    refine .bind (.modify _ _ _ w) (.bind (.read _ u) ?_)
    have hsame : u.element.propertyFor? attr = w.element.propertyFor? attr := rfl
    rw [hsame]
    cases hfor : w.element.propertyFor? attr with
    | none =>
      rw [show Operation.write? H w (.setAttribute attr text) = none by simp [Operation.write?, hfor]]
      exact .pure () u
    | some q =>
      have hwrite : Operation.write? H w (.setAttribute attr text) =
          some (q, .value (H.ofText text)) := by
        simp [Operation.write?, hfor]
      rw [hwrite]
      exact setProperty_ends (w := u) htarget (hstored q _ hwrite) _
  | flush limit => cases hflush

theorem written_value (w : PlainWorld V) (name : String) (x : Held V) (other : String) :
    (written H w name x).value H other = if other = name then x else w.value H other := by
  have hstore : ((w.element.store name x).values.lookup other).getD (.value H.nothing) =
      if other = name then x else w.value H other := by
    unfold ElementState.store
    by_cases h : other = name
    · rw [if_pos h, h, Entries.lookup_put_self, Option.getD_some]
    · rw [if_neg h, Entries.lookup_put_of_ne _ _ h]
      rfl
  unfold written
  split
  · rw [← hstore]
    unfold value ElementState.record
    dsimp only
    split <;> rfl
  · exact hstore

/-- The names of the properties that have changed. -/
def changedNames (w : PlainWorld V) : List String :=
  w.element.changed.map (·.1)

theorem mem_changedNames_written {w : PlainWorld V} {name : String} {x : Held V} {other : String} :
    other ∈ (written H w name x).changedNames ↔
      other ∈ w.changedNames ∨ other = name ∧ H.differs w.records (w.value H name) x = true := by
  unfold written
  split
  · rename_i hdiffers
    unfold changedNames ElementState.record
    dsimp only
    split
    · rename_i hknown
      have hmem : name ∈ w.element.changed.map (·.1) := by
        simpa [Entries.has, ElementState.store] using hknown
      constructor
      · exact .inl
      · rintro (h | ⟨rfl, -⟩)
        · exact h
        · exact hmem
    · simp [ElementState.store, hdiffers]
  · rename_i hsame
    simp [changedNames, ElementState.store, hsame]

theorem changedNames_written_of_idle (hidle : w.changedNames = []) (name : String) (x : Held V) :
    (written H w name x).changedNames =
      if H.differs w.records (w.value H name) x then [name] else [] := by
  have hnone : w.element.changed = [] := List.map_eq_nil_iff.1 hidle
  unfold written
  split
  · simp [changedNames, ElementState.record, ElementState.store, Entries.has, hnone]
  · exact hidle

theorem written_keeps {α : Type} (f : PlainWorld V → α)
    (helement : ∀ w s, f { w with element := s } = f w)
    (hphase : ∀ w p, f { w with state := { w.state with phase := p } } = f w) (w : PlainWorld V)
    (name : String) (x : Held V) : f (written H w name x) = f w := by
  unfold written
  split
  · split
    · exact (hphase { w with element := _ } _).trans (helement w _)
    · exact helement w _
  · exact helement w _

/-! ## Writing to the target -/

/-- What the value of a property is converted to. -/
def converted (H : Handling V) (w : PlainWorld V) (name : String) (info : PropertyInfo) :
    Except Fault (Held V) :=
  H.convert w.records (w.value H name) info.type

/-- The record at a place with the fields that have a value. -/
def merge (H : Handling V) (place : Nat) (w : PlainWorld V) (field : String × Held V) :
    PlainWorld V :=
  if isNothing H field.2 then w else w.putEntry place field.1 field.2

theorem mergeField_ends (place : Nat) (field : String × Held V) :
    Ends (if (notingAdapter H d).isNothing field.2 then pure ()
      else do
        if ← (notingAdapter H d).isOpenRecord (.record place) then
          (notingAdapter H d).setEntry (.record place) field.1 field.2
        else (notingAdapter H d).setMember (.record place) field.1 field.2) w ⟨⟩
      (merge H place w field) := by
  unfold merge
  by_cases hnothing : isNothing H field.2 = true
  · rw [if_pos hnothing]
    exact .ite_of_pos hnothing (.pure _ w)
  · rw [if_neg hnothing]
    exact .ite_of_neg hnothing (.bind (.pure true w) (.change _ w))

theorem mergeInto_ends_of_record {name : String} {place : Nat}
    (h : w.targetValue H name = .record place) (fields : List (String × Held V)) :
    Ends ((notingAdapter H d).mergeInto .target name fields) w ⟨⟩ (fields.foldl (merge H place) w) := by
  refine .bind (.read _ w) ?_
  rw [h]
  exact Ends.forM (fun u field => mergeField_ends place field) fields w

theorem mergeInto_ends_of_nothing {name : String} (h : isNothing H (w.targetValue H name) = true)
    (fields : List (String × Held V)) :
    Ends ((notingAdapter H d).mergeInto .target name fields) w ⟨⟩
      ((w.add fields).put name (.record w.records.length)) := by
  refine .bind (.read _ w) (.ite_of_pos h ?_)
  exact .bind (.bind (.read _ w) (.bind (.change _ w) (.pure _ _))) (.change _ _)

/-! ## Changes -/

/-- The property is one of the attributes that an update writes to the target. -/
structure IsPlain (d : AdapterDefinition (Held V)) (name : String) (info : PropertyInfo) :
    Prop where
  known : d.metadata.properties.lookup name = some info
  shown : d.isAttribute name = true

theorem applyChange_ends_of_other {name : String} (h : ∀ info, ¬ IsPlain d name info) :
    Ends ((notingAdapter H d).applyChange .target name) w none w := by
  unfold Adapter.applyChange
  cases hknown : d.metadata.properties.lookup name with
  | none =>
    rw [show (notingAdapter H d).definition = d from rfl, hknown]
    exact .pure none w
  | some info =>
    rw [show (notingAdapter H d).definition = d from rfl, hknown]
    have hhidden : d.isAttribute name = false := by
      cases hshown : d.isAttribute name with
      | false => rfl
      | true => exact absurd ⟨hknown, hshown⟩ (h info)
    simp only [hhidden]
    exact .pure none w

/-- A change is written once its value was converted. -/
theorem applyChange_iff {name : String} {info : PropertyInfo} (h : IsPlain d name info)
    {e : Except Fault (Option Fault) × PlainWorld V} :
    (notingAdapter H d).applyChange .target name w e ↔
      match w.converted H name info with
      | .error f => if f.kind = .conversion then e = (.ok (some f), w) else e = (.error f, w)
      | .ok x =>
        match info.type, fields? H w x with
        | .record _, some fields => (do
          (notingAdapter H d).mergeInto .target name fields
          return none) w e
        | _, _ => e = (.ok none, w.put name x) := by
  have hvalue : Ends ((notingAdapter H d).element.property name) w (w.value H name) w :=
    .bind (.read _ w) (.pure _ w)
  have hattempt : Ends (tryCatchThe Fault
      (Except.ok <$> (notingAdapter H d).convert (w.value H name) info.type)
      fun f => pure (.error f)) w (w.converted H name info) w :=
    .attempt fun e => .rfl
  unfold Adapter.applyChange
  rw [show (notingAdapter H d).definition = d from rfl, h.known]
  simp only [h.shown, Bool.not_true, Bool.false_eq_true, if_false]
  rw [hvalue.bind_iff, hattempt.bind_iff]
  cases w.converted H name info with
  | error f =>
    dsimp only
    split
    · rfl
    · rfl
  | ok x =>
    have hfields : Ends ((notingAdapter H d).entries? x) w (fields? H w x) w := .read _ w
    have hput : Ends (do
        (notingAdapter H d).setMember .target name x
        return none) w (none : Option Fault) (w.put name x) := .bind (.change _ w) (.pure none _)
    refine hfields.bind_iff.trans ?_
    dsimp only
    cases info.type with
    | record fs =>
      cases fields? H w x with
      | some fields => rfl
      | none => exact hput e
    | _ => exact hput e

/-- The adapter keeps all that it knows itself. -/
def KeepsAdapter (v w : PlainWorld V) : Prop :=
  w.element = v.element ∧ w.state = v.state

theorem keepsAdapter_isStep : IsStep (KeepsAdapter (V := V)) where
  refl _ := ⟨rfl, rfl⟩
  trans h₁ h₂ := ⟨h₂.1.trans h₁.1, h₂.2.trans h₁.2⟩

theorem keepsAdapter_asks : (notingAdapter H d).AsksOutside KeepsAdapter := by
  have hR := keepsAdapter_isStep (V := V)
  have hrefuse {α : Type} (name : String) : Advances KeepsAdapter (refuse (α := α) (V := V) name) :=
    .throw hR _
  refine ⟨fun v name => ?_, fun v name => ?_, fun v name x => ?_, fun v t => ?_,
    fun v => .read hR _, fun es => ?_, fun v => ?_, fun v key x => ?_⟩
  · refine .bind hR (.read hR _) fun attributes => ?_
    split
    · exact .pure hR _
    · exact hrefuse name
  · cases v with
    | target => exact .read hR _
    | _ => exact .pure hR _
  · cases v with
    | target => exact .change fun w => ⟨rfl, rfl⟩
    | _ => exact hrefuse name
  · rintro w outcome x hrun
    obtain ⟨-, rfl⟩ := Prod.mk.inj hrun
    exact ⟨rfl, rfl⟩
  · refine .bind hR (.read hR _) fun place => ?_
    exact .bind hR (.change fun w => ⟨rfl, rfl⟩) fun _ => .pure hR _
  · cases v with
    | record place => exact .pure hR true
    | _ => exact .pure hR false
  · cases v with
    | record place => exact .change fun w => ⟨rfl, rfl⟩
    | _ => exact hrefuse key

theorem applyChange_keepsAdapter (t : Held V) (name : String) :
    Advances KeepsAdapter ((notingAdapter H d).applyChange t name) :=
  (notingAdapter H d).applyChange_advances keepsAdapter_isStep keepsAdapter_asks
    (.read keepsAdapter_isStep _) t name

/-! ## Updates -/

/-- The adapter after its waiting changes were taken. -/
def taken (w : PlainWorld V) : PlainWorld V :=
  { w with element := { w.element with changed := [] } }

/-- The adapter after it has written its changes to the target. -/
def updated (w : PlainWorld V) : PlainWorld V :=
  { w with state := { w.state with phase := .converted } }

/-- The adapter after an update without a failure. -/
def finished (w : PlainWorld V) : PlainWorld V :=
  { w with element := { w.element with hasUpdated := true } }

/-- The changes are written to the target one after another: the writing ends in `inner`. -/
def Writes (H : Handling V) (d : AdapterDefinition (Held V)) (names : List String)
    (w : PlainWorld V) (inner : Except Fault (List Fault)) (x : PlainWorld V) : Prop :=
  names.filterMapM ((notingAdapter H d).applyChange .target) w (inner, x)

theorem Writes.keepsAdapter {names : List String} {inner : Except Fault (List Fault)}
    {x : PlainWorld V} (h : Writes H d names w inner x) : KeepsAdapter w x := by
  have hall : Advances KeepsAdapter (names.filterMapM ((notingAdapter H d).applyChange .target)) :=
    .filterMapM keepsAdapter_isStep fun name _ => applyChange_keepsAdapter .target name
  exact hall _ _ _ h

theorem Writes.cons {name : String} {names : List String} {inner : Except Fault (List Fault)}
    {x : PlainWorld V} (h : Writes H d (name :: names) w inner x) :
    (∃ f, inner = .error f ∧ (notingAdapter H d).applyChange .target name w (.error f, x)) ∨
      ∃ found u rest, (notingAdapter H d).applyChange .target name w (.ok found, u) ∧
        Writes H d names u rest x ∧ inner = (found.toList ++ ·) <$> rest := by
  unfold Writes at h
  rw [List.filterMapM_cons] at h
  rcases bind_cases h with ⟨f, rfl, hfirst⟩ | ⟨found, u, hfirst, hrest⟩
  · exact .inl ⟨f, rfl, hfirst⟩
  · right
    cases found with
    | none =>
      refine ⟨none, u, inner, hfirst, hrest, ?_⟩
      cases inner <;> rfl
    | some g =>
      rcases bind_cases hrest with ⟨f, rfl, hnames⟩ | ⟨gs, t, hnames, hlast⟩
      · exact ⟨some g, u, .error f, hfirst, hnames, rfl⟩
      · obtain ⟨rfl, rfl⟩ := Prod.mk.inj hlast
        exact ⟨some g, u, .ok gs, hfirst, hnames, rfl⟩

theorem Writes.of_ends {name : String} {names : List String} {inner : Except Fault (List Fault)}
    {u x : PlainWorld V} (h : Ends ((notingAdapter H d).applyChange .target name) w none u)
    (hrest : Writes H d names u inner x) : Writes H d (name :: names) w inner x := by
  unfold Writes
  rw [List.filterMapM_cons]
  exact h.bind_iff.2 hrest

theorem update_iff (htarget : w.state.target = some .target) {names : List String}
    {e : Except Fault Unit × PlainWorld V} :
    (notingAdapter H d).update names w e ↔ ∃ inner u, Writes H d names w inner u ∧
      e = match inner with
        | .error f => (.error f, u)
        | .ok [] => (.ok (), updated u)
        | .ok (f :: _) => (.error f, updated u) := by
  refine (requireTarget_ends (H := H) (d := d) htarget).bind_iff.trans ?_
  constructor
  · rintro ⟨inner, u, hwrites, hrest⟩
    refine ⟨inner, u, hwrites, ?_⟩
    -- The first failure is raised once all changes were tried.
    rcases inner with f | _ | ⟨f, fs⟩
    · exact hrest
    · exact (Ends.modify _ _ _ u).bind_iff.1 hrest
    · exact (Ends.modify _ _ _ u).bind_iff.1 hrest
  · rintro ⟨inner, u, hwrites, rfl⟩
    refine ⟨inner, u, hwrites, ?_⟩
    rcases inner with f | _ | ⟨f, fs⟩
    · rfl
    · exact (Ends.modify _ _ _ u).bind_iff.2 rfl
    · exact (Ends.modify _ _ _ u).bind_iff.2 rfl

/-- Once the changes are written, the subscribers are told of them. -/
theorem finishUpdate_iff (tell : Held V → List String → Possibly (PlainWorld V) Unit)
    (changed : List (String × Held V)) {e : Except Fault Unit × PlainWorld V} :
    (tellingAdapter H d tell).element.finishUpdate changed w e ↔
      deliver (tell · (changed.map (·.1))) w.element.subscribers (finished w) e := by
  have hlast : (show Possibly (PlainWorld V) Unit from do
      (tellingAdapter H d tell).element.updated changed
      deliver ((tellingAdapter H d tell).element.notify · (changed.map (·.1)))
        (← (tellingAdapter H d tell).element.state.get).subscribers) (finished w) e ↔
      deliver (tell · (changed.map (·.1))) w.element.subscribers (finished w) e :=
    (Ends.pure () _).bind_iff.trans (Ends.read _ _).bind_iff
  refine (Ends.read _ w).bind_iff.trans ((Ends.modify _ _ _ w).bind_iff.trans ?_)
  dsimp only
  split
  · exact (Ends.pure () _).bind_iff.trans hlast
  · exact hlast

/-- However subscribers behave, telling them returns. -/
theorem deliver_returns {call : Held V → Possibly (PlainWorld V) Unit} {ss : List (Held V)}
    {outcome : Except Fault Unit} {x : PlainWorld V} (hrun : deliver call ss w (outcome, x)) :
    outcome = .ok () := by
  induction ss generalizing w with
  | nil => exact (Prod.mk.inj hrun).1
  | cons s ss ih =>
    obtain ⟨_, _, -, hrest⟩ := deliver_cons hrun
    exact ih hrest

theorem performUpdate_telling_iff (tell : Held V → List String → Possibly (PlainWorld V) Unit)
    (htarget : w.state.target = some .target) (hpending : w.element.isPending = true)
    {e : Except Fault Bool × PlainWorld V} :
    (tellingAdapter H d tell).element.performUpdate w e ↔
      ∃ inner u, Writes H d w.changedNames w.taken inner u ∧
        match inner with
        | .error f => e = (.error f, u)
        | .ok [] => ∃ x, deliver (tell · w.changedNames) w.element.subscribers
            (finished (updated u)) (.ok (), x) ∧ e = (.ok true, x)
        | .ok (f :: _) => e = (.error f, updated u) := by
  have hstate : Ends (tellingAdapter H d tell).element.state.get w w.element w := .read _ w
  refine hstate.bind_iff.trans ?_
  simp only [hpending]
  refine (Ends.modify _ _ _ w).bind_iff.trans ?_
  constructor
  · rintro ⟨outcome, v, hupdate, hrest⟩
    obtain ⟨inner, u, hwrites, heq⟩ := (update_iff (w := w.taken) htarget).1 hupdate
    refine ⟨inner, u, hwrites, ?_⟩
    rcases inner with f | _ | ⟨f, fs⟩
    · obtain ⟨rfl, rfl⟩ := Prod.mk.inj heq
      exact hrest
    · obtain ⟨rfl, rfl⟩ := Prod.mk.inj heq
      obtain ⟨told, x, htold, hlast⟩ := hrest
      have htold := (finishUpdate_iff tell _).1 htold
      cases deliver_returns htold
      rw [show (updated u).element.subscribers = w.element.subscribers by
        rw [updated, hwrites.keepsAdapter.1]
        rfl] at htold
      exact ⟨x, htold, hlast⟩
    · obtain ⟨rfl, rfl⟩ := Prod.mk.inj heq
      exact hrest
  · rintro ⟨inner, u, hwrites, hrest⟩
    have hupdate := (update_iff (w := w.taken) htarget).2 ⟨inner, u, hwrites, rfl⟩
    rcases inner with f | _ | ⟨f, fs⟩
    · exact ⟨_, _, hupdate, hrest⟩
    · obtain ⟨x, htold, rfl⟩ := hrest
      refine ⟨_, _, hupdate, .ok (), x, (finishUpdate_iff tell _).2 ?_, rfl⟩
      rw [show (updated u).element.subscribers = w.element.subscribers by
        rw [updated, hwrites.keepsAdapter.1]
        rfl]
      exact htold
    · exact ⟨_, _, hupdate, hrest⟩

theorem performUpdate_iff (htarget : w.state.target = some .target)
    (hpending : w.element.isPending = true) {e : Except Fault Bool × PlainWorld V} :
    (adapter H d).element.performUpdate w e ↔
      ∃ inner u, Writes H d w.changedNames w.taken inner u ∧
        e = match inner with
          | .error f => (.error f, u)
          | .ok [] => (.ok true, finished (updated u))
          | .ok (f :: _) => (.error f, updated u) := by
  refine (performUpdate_telling_iff (fun _ _ => pure ()) htarget hpending).trans ?_
  refine exists_congr fun inner => exists_congr fun u => and_congr_right fun _ => ?_
  rcases inner with f | _ | ⟨f, fs⟩
  · exact .rfl
  · have htold : Ends (deliver (fun _ => pure ()) w.element.subscribers) (finished (updated u)) ()
        (finished (updated u)) := .deliver (fun _ => .pure () _) _
    constructor
    · rintro ⟨x, hx, rfl⟩
      obtain ⟨-, rfl⟩ := Prod.mk.inj ((htold _).1 hx)
      rfl
    · rintro rfl
      exact ⟨_, (htold _).2 rfl, rfl⟩
  · exact .rfl

theorem performUpdate_ends_of_idle (hidle : w.element.isPending = false) :
    Ends (adapter H d).element.performUpdate w false w := by
  refine .bind (.read _ w) ?_
  simp only [hidle]
  exact .pure false w

theorem flush_ends_of_idle (hidle : w.element.isPending = false) (limit : Nat) :
    Ends ((adapter H d).element.flush limit) w 0 w := by
  cases limit with
  | zero => exact .pure 0 w
  | succ n => exact .bind (performUpdate_ends_of_idle hidle) (.pure 0 w)

/-- A flush does nothing if it may hand out no batch, or if nothing is waiting. -/
theorem run_flush_ends_of_idle {limit : Nat} (h : limit = 0 ∨ w.element.isPending = false) :
    Ends ((Operation.flush limit).run H d) w () w := by
  have hflush : Ends ((adapter H d).element.flush limit) w 0 w := by
    rcases h with rfl | hidle
    · exact .pure 0 w
    · exact flush_ends_of_idle hidle limit
  exact .bind hflush (.pure () w)

/-- A flush hands out the one batch that is waiting: its changes are written to the target. -/
theorem flush_iff (htarget : w.state.target = some .target)
    (hpending : w.element.isPending = true) {limit : Nat} {e : Except Fault Unit × PlainWorld V} :
    (Operation.flush (limit + 1)).run H d w e ↔
      ∃ inner u, Writes H d w.changedNames w.taken inner u ∧
        e = match inner with
          | .error f => (.error f, u)
          | .ok [] => (.ok (), finished (updated u))
          | .ok (f :: _) => (.error f, updated u) := by
  -- The update leaves nothing waiting for a second round.
  have hrest {u : PlainWorld V} {inner : Except Fault (List Fault)}
      (hwrites : Writes H d w.changedNames w.taken inner u) :
      Ends (do return (← (adapter H d).element.flush limit) + 1) (finished (updated u)) 1
        (finished (updated u)) := by
    have hidle : (finished (updated u)).element.isPending = false := by
      simp [finished, updated, hwrites.keepsAdapter.1, taken, ElementState.isPending]
    exact .bind (flush_ends_of_idle hidle limit) (.pure 1 _)
  constructor
  · rintro ⟨rounds, v, ⟨more, u, hperform, hflush⟩, hend⟩
    obtain ⟨inner, x, hwrites, heq⟩ := (performUpdate_iff htarget hpending).1 hperform
    refine ⟨inner, x, hwrites, ?_⟩
    rcases inner with f | _ | ⟨f, fs⟩
    · obtain ⟨rfl, rfl⟩ := Prod.mk.inj heq
      obtain ⟨rfl, rfl⟩ := Prod.mk.inj hflush
      exact hend
    · obtain ⟨rfl, rfl⟩ := Prod.mk.inj heq
      obtain ⟨rfl, rfl⟩ := Prod.mk.inj ((hrest hwrites _).1 hflush)
      exact hend
    · obtain ⟨rfl, rfl⟩ := Prod.mk.inj heq
      obtain ⟨rfl, rfl⟩ := Prod.mk.inj hflush
      exact hend
  · rintro ⟨inner, x, hwrites, rfl⟩
    have hperform := (performUpdate_iff htarget hpending).2 ⟨inner, x, hwrites, rfl⟩
    rcases inner with f | _ | ⟨f, fs⟩
    · exact ⟨_, _, ⟨_, _, hperform, rfl⟩, rfl⟩
    · exact ⟨_, _, ⟨_, _, hperform, (hrest hwrites _).2 rfl⟩, rfl⟩
    · exact ⟨_, _, ⟨_, _, hperform, rfl⟩, rfl⟩

/-- All is as after the changes were written, but for how far the adapter has come. -/
structure Concludes (u x : PlainWorld V) : Prop where
  values : x.element.values = u.element.values
  changed : x.element.changed = u.element.changed
  target : x.state.target = u.state.target
  attributes : x.attributes = u.attributes
  records : x.records = u.records

/-- However a flush ends, it does nothing or writes the changes that are waiting to the target. -/
theorem flush_cases (htarget : w.state.target = some .target) {limit : Nat}
    {outcome : Except Fault Unit} {x : PlainWorld V}
    (hrun : (Operation.flush limit).run H d w (outcome, x)) :
    ((limit = 0 ∨ w.changedNames = []) ∧ x = w) ∨
      ∃ inner u, Writes H d w.changedNames w.taken inner u ∧
        (∀ f, inner = .error f → outcome = .error f) ∧ (outcome = .ok () → inner = .ok []) ∧
        Concludes u x := by
  by_cases hidle : limit = 0 ∨ w.element.isPending = false
  · obtain ⟨-, rfl⟩ := Prod.mk.inj ((run_flush_ends_of_idle hidle _).1 hrun)
    refine .inl ⟨hidle.imp_right fun hnone => ?_, rfl⟩
    simpa [changedNames, ElementState.isPending] using hnone
  · rw [not_or, Bool.not_eq_false] at hidle
    obtain ⟨n, rfl⟩ := Nat.exists_eq_succ_of_ne_zero hidle.1
    obtain ⟨inner, u, hwrites, heq⟩ := (flush_iff htarget hidle.2).1 hrun
    refine .inr ⟨inner, u, hwrites, ?_⟩
    rcases inner with f | _ | ⟨f, fs⟩
    all_goals
      obtain ⟨rfl, rfl⟩ := Prod.mk.inj heq
      refine ⟨?_, ?_, ⟨rfl, rfl, rfl, rfl, rfl⟩⟩
      · simp
      · simp

/-! ## One change -/

section Change

variable {x : PlainWorld V} {name : String}

theorem isPending_of_changedNames (h : w.changedNames = [name]) : w.element.isPending = true := by
  cases hchanged : w.element.changed with
  | nil => simp [changedNames, hchanged] at h
  | cons c cs => simp [ElementState.isPending, hchanged]

/-- A flush of one change writes it. -/
theorem flush_ends_of_change (htarget : w.state.target = some .target) (hnames : w.changedNames = [name])
    (h : Ends ((notingAdapter H d).applyChange .target name) w.taken none x) (limit : Nat) :
    Ends ((Operation.flush (limit + 1)).run H d) w () (finished (updated x)) := by
  have hwrites : Ends ([name].filterMapM ((notingAdapter H d).applyChange .target)) w.taken [] x := by
    rw [List.filterMapM_cons]
    exact h.bind (.pure [] x)
  intro e
  rw [flush_iff htarget (isPending_of_changedNames hnames), hnames]
  constructor
  · rintro ⟨inner, y, hrun, rfl⟩
    obtain ⟨rfl, rfl⟩ := Prod.mk.inj ((hwrites _).1 hrun)
    rfl
  · rintro rfl
    exact ⟨.ok [], x, (hwrites _).2 rfl, rfl⟩

end Change

end PlainWorld

end SceneBridge
