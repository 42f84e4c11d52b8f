import SceneBridge.Proofs.MemberKinds
import SceneBridge.Proofs.RecordMerge

/-!
# What a batch does to the target

An update writes its batch to a plain target, name by name. A conversion that fails holds up no
other one: what can be converted reaches the target, and the rest of the target is left as it is.
The order of the names decides nothing but which failure is raised.
-/

namespace SceneBridge

namespace PlainWorld

open Possibly

variable {V : Type} {H : Handling V} {d : AdapterDefinition (Held V)} {u w x y : PlainWorld V}
  {names done : List String} {name q : String} {info : PropertyInfo} {c : Held V}

/-! ## Conversions -/

/-- What a value is converted to depends on the value alone, and on its entries if it is an open
record; and it is a value of its own. -/
structure IsLocal (H : Handling V) : Prop where
  convert : ∀ {rs ss : Records V} {y : Held V} (t : TypeExpr),
    (∀ place, y = .record place → ss.getD place [] = rs.getD place []) →
      H.convert ss y t = H.convert rs y t
  made : ∀ {rs y t c}, H.convert rs y t = .ok c → ∃ v, c = .value v

theorem isLocal_ofSurroundings {C : Type} (k : Surroundings (Except Fault) V C) (traced : Bool)
    (nothing self : V) (isNothing : V → Bool) (ofText : String → V) (differs : V → V → Bool)
    (ofRecord : List (String × Held V) → V) :
    IsLocal (.ofSurroundings k traced nothing self isNothing ofText differs ofRecord) where
  convert {rs ss y} t h := by
    have hcontent : Handling.ofSurroundings.content self ofRecord ss y =
        Handling.ofSurroundings.content self ofRecord rs y := by
      cases y with
      | record place => exact congrArg ofRecord (h place rfl)
      | _ => rfl
    exact congrArg (fun v => Held.value <$> (k.convert traced v t).1) hcontent
  made {rs y t c} hc := by
    obtain ⟨v, -, hv⟩ := bind_eq_ok_iff.1 hc
    exact ⟨v, (Except.ok.inj hv).symm⟩

theorem isLocal_ofData (traced : Bool) : IsLocal (.ofData traced) :=
  isLocal_ofSurroundings _ _ _ _ _ _ _ _

/-- The fault of the conversion, for a property that is written to the target. -/
def failure? (H : Handling V) (d : AdapterDefinition (Held V)) (w : PlainWorld V) (name : String) :
    Option Fault :=
  match d.metadata.properties.lookup name with
  | none => none
  | some info =>
    if d.isAttribute name then
      match w.converted H name info with
      | .error f => some f
      | .ok _ => none
    else none

theorem failure?_of_plain (h : IsPlain d name info) :
    w.failure? H d name = match w.converted H name info with
      | .error f => some f
      | .ok _ => none := by
  unfold failure?
  rw [h.known]
  exact if_pos h.shown

theorem failure?_of_other (h : ∀ info, ¬ IsPlain d name info) : w.failure? H d name = none := by
  unfold failure?
  split
  · rfl
  · rename_i info hknown
    exact if_neg fun hshown => h info ⟨hknown, hshown⟩

/-! ## What is written -/

/-- The fields of a converted value that are put into the record of the target. -/
def mergedFields? (H : Handling V) (w : PlainWorld V) (t : TypeExpr) (c : Held V) :
    Option (List (String × Held V)) :=
  match t with
  | .record _ => fields? H w c
  | _ => none

/-- The entries with the fields that have a value. -/
def putFields (H : Handling V) (es fields : List (String × Held V)) : List (String × Held V) :=
  fields.foldl (fun es field => if isNothing H field.2 then es else Entries.put es field.1 field.2) es

/-- The converted value has reached the target. -/
inductive Reaches (H : Handling V) (t : TypeExpr) (name : String) (c : Held V) (w x : PlainWorld V) :
    Prop where
  /-- It has taken the place of the attribute. -/
  | replaced (hfields : mergedFields? H w t c = none) (hlookup : x.attributes.lookup name = some c)
  /-- Its fields were put into the record that the target had. -/
  | merged {fields : List (String × Held V)} {place : Nat}
      (hfields : mergedFields? H w t c = some fields)
      (hcurrent : w.targetValue H name = .record place)
      (hlookup : x.attributes.lookup name = w.attributes.lookup name)
      (hrecord : x.records.getD place [] = putFields H (w.records.getD place []) fields)
  /-- Its fields are a new record, where the target had nothing. -/
  | made {fields : List (String × Held V)} {place : Nat}
      (hfields : mergedFields? H w t c = some fields)
      (hcurrent : isNothing H (w.targetValue H name) = true)
      (hold : w.records.length ≤ place) (hnew : place < x.records.length)
      (hlookup : x.attributes.lookup name = some (.record place))
      (hrecord : x.records.getD place [] = fields)

/-- An update puts fields of the property into the record at the place. -/
def Merges (H : Handling V) (d : AdapterDefinition (Held V)) (w : PlainWorld V) (name : String)
    (place : Nat) : Prop :=
  ∃ info c fields, IsPlain d name info ∧ w.converted H name info = .ok c ∧
    mergedFields? H w info.type c = some fields ∧ w.targetValue H name = .record place

/-- Fields are put into open records only, each of which belongs to one attribute of the target
alone. -/
structure Unshared (H : Handling V) (d : AdapterDefinition (Held V)) (names : List String)
    (w : PlainWorld V) : Prop where
  opened : ∀ name ∈ names, ∀ info c fields, IsPlain d name info →
    w.converted H name info = .ok c → mergedFields? H w info.type c = some fields →
      isNothing H (w.targetValue H name) = true ∨
        ∃ place, w.targetValue H name = .record place
  alone : ∀ name ∈ names, ∀ place, Merges H d w name place → ∀ other ≠ name,
    w.attributes.lookup other ≠ some (.record place)
  shown : ∀ name place, w.attributes.lookup name = some (.record place) → place < w.records.length

/-- The records are as they are in `w`, but for new ones and those that names besides `name` put
fields into. -/
def AgreesFor (H : Handling V) (d : AdapterDefinition (Held V)) (names : List String)
    (w : PlainWorld V) (name : String) (rs : Records V) : Prop :=
  ∀ place < w.records.length, (∀ other ∈ names, other ≠ name → ¬ Merges H d w other place) →
    rs.getD place [] = w.records.getD place []

/-- What the value of a name is converted to is the same before and after the other names put fields
into records, and so are its fields. -/
structure Independent (H : Handling V) (d : AdapterDefinition (Held V)) (names : List String)
    (w : PlainWorld V) : Prop where
  convert : ∀ name ∈ names, ∀ info, IsPlain d name info → ∀ rs, AgreesFor H d names w name rs →
    H.convert rs (w.value H name) info.type = w.converted H name info
  fields : ∀ name ∈ names, ∀ info c, IsPlain d name info → w.converted H name info = .ok c →
    ∀ u : PlainWorld V, AgreesFor H d names w name u.records →
      mergedFields? H u info.type c = mergedFields? H w info.type c
  there : ∀ name ∈ names, ∀ info place, IsPlain d name info →
    w.converted H name info = .ok (.record place) → place < w.records.length

/-- Where conversions depend on their values alone, a batch is independent if none of its values is a
record that another of its names puts fields into. -/
theorem Independent.of_isLocal (hH : IsLocal H)
    (hvalues : ∀ name ∈ names, ∀ place, w.value H name = .record place →
      place < w.records.length ∧ ∀ other ∈ names, other ≠ name → ¬ Merges H d w other place) :
    Independent H d names w where
  convert name hname info _ rs hrs := by
    refine hH.convert info.type fun place hplace => ?_
    obtain ⟨hlt, hnone⟩ := hvalues name hname place hplace
    exact hrs place hlt hnone
  fields name _ info c _ hc u _ := by
    obtain ⟨v, rfl⟩ := hH.made hc
    rfl
  there name _ info place _ hc := by
    obtain ⟨v, hv⟩ := hH.made hc
    cases hv

/-- The converted values of the names have reached the target, and nothing else has changed. -/
structure Applied (H : Handling V) (d : AdapterDefinition (Held V)) (names : List String)
    (w x : PlainWorld V) : Prop where
  size : w.records.length ≤ x.records.length
  reached : ∀ name ∈ names, ∀ info c, IsPlain d name info → w.converted H name info = .ok c →
    Reaches H info.type name c w x
  others : ∀ name, (∀ info c, name ∈ names → IsPlain d name info → w.converted H name info ≠ .ok c) →
    x.attributes.lookup name = w.attributes.lookup name
  records : ∀ place < w.records.length, (∀ name ∈ names, ¬ Merges H d w name place) →
    x.records.getD place [] = w.records.getD place []

/-! ## One change -/

theorem IsPlain.unique {other : PropertyInfo} (h : IsPlain d name info) (hother : IsPlain d name other) :
    info = other :=
  Option.some.inj (h.known.symm.trans hother.known)

theorem targetValue_of_lookup (h : x.attributes.lookup name = w.attributes.lookup name) :
    x.targetValue H name = w.targetValue H name := by
  rw [targetValue, targetValue, h]

theorem lookup_of_targetValue {place : Nat} (h : w.targetValue H name = .record place) :
    w.attributes.lookup name = some (.record place) := by
  unfold targetValue at h
  cases hlookup : w.attributes.lookup name with
  | none =>
    rw [hlookup] at h
    cases h
  | some z =>
    rw [hlookup] at h
    exact congrArg some h

theorem Unshared.merges_lt (hw : Unshared H d names w) {place : Nat}
    (h : Merges H d w name place) : place < w.records.length := by
  obtain ⟨info, c, fields, -, -, -, hcurrent⟩ := h
  exact hw.shown name place (lookup_of_targetValue hcurrent)

theorem Unshared.merges_alone (hw : Unshared H d names w) {place : Nat} (hname : name ∈ names)
    (h : Merges H d w name place) (hne : q ≠ name) : ¬ Merges H d w q place := by
  rintro ⟨info, c, fields, -, -, -, hcurrent⟩
  exact hw.alone name hname place h q hne (lookup_of_targetValue hcurrent)

/-- What has reached the target stays there if the attribute is left alone, and so are the record
that it had and all new ones. -/
theorem Reaches.later {t : TypeExpr} (h : Reaches H t name c w u)
    (hlookup : x.attributes.lookup name = u.attributes.lookup name)
    (hsize : u.records.length ≤ x.records.length)
    (hold : ∀ fields place, mergedFields? H w t c = some fields →
      w.targetValue H name = .record place → x.records.getD place [] = u.records.getD place [])
    (hnew : ∀ place, w.records.length ≤ place → place < u.records.length →
      x.records.getD place [] = u.records.getD place []) : Reaches H t name c w x := by
  cases h with
  | replaced hfields hu => exact .replaced hfields (hlookup.trans hu)
  | merged hfields hcurrent hu hrecord =>
    exact .merged hfields hcurrent (hlookup.trans hu) ((hold _ _ hfields hcurrent).trans hrecord)
  | made hfields hcurrent hplace hlt hu hrecord =>
    exact .made hfields hcurrent hplace (Nat.lt_of_lt_of_le hlt hsize) (hlookup.trans hu)
      ((hnew _ hplace hlt).trans hrecord)

theorem Applied.of_target (h : Applied H d names w u) (hattributes : x.attributes = u.attributes)
    (hrecords : x.records = u.records) : Applied H d names w x where
  size := by
    rw [hrecords]
    exact h.size
  reached name hname info c hplain hc := by
    refine (h.reached name hname info c hplain hc).later ?_ ?_ (fun _ _ _ _ => ?_) fun _ _ _ => ?_
    · rw [hattributes]
    · rw [hrecords]
    · rw [hrecords]
    · rw [hrecords]
  others name hname := by
    rw [hattributes]
    exact h.others name hname
  records place hplace hmerges := by
    rw [hrecords]
    exact h.records place hplace hmerges

/-- A name whose value is not converted is passed over. -/
theorem Applied.skip (h : Applied H d done w u)
    (hq : ∀ info c, IsPlain d q info → w.converted H q info ≠ .ok c) :
    Applied H d (done ++ [q]) w u where
  size := h.size
  reached name hname info c hplain hc := by
    rcases List.mem_append.1 hname with hname | hname
    · exact h.reached name hname info c hplain hc
    · rw [List.mem_singleton.1 hname] at hplain hc
      exact absurd hc (hq info c hplain)
  others name hname := h.others name fun info c hmem => hname info c (List.mem_append_left _ hmem)
  records place hplace hmerges :=
    h.records place hplace fun name hmem => hmerges name (List.mem_append_left _ hmem)

theorem foldl_merge_entries {place : Nat} (hplace : place < w.records.length)
    (fields : List (String × Held V)) :
    (fields.foldl (merge H place) w).records.getD place [] =
      putFields H (w.records.getD place []) fields := by
  unfold putFields
  induction fields generalizing w with
  | nil => rfl
  | cons field fields ih =>
    have hsize : place < (merge H place w field).records.length := by
      rw [(merge_isMerge place w field).size]
      exact hplace
    rw [List.foldl_cons, List.foldl_cons, ih hsize]
    congr 1
    unfold merge
    split
    · rfl
    · exact getD_modify_self _ hplace _

theorem applyChange_ends_of_whole (hplain : IsPlain d q info) (hc : u.converted H q info = .ok c)
    (hfields : mergedFields? H u info.type c = none) :
    Ends ((notingAdapter H d).applyChange .target q) u none (u.put q c) := by
  intro e
  rw [applyChange_iff hplain, hc]
  dsimp only
  split
  · rename_i declared fields htype hsome
    rw [htype, mergedFields?, hsome] at hfields
    cases hfields
  · rfl

theorem applyChange_iff_of_fields (hplain : IsPlain d q info) (hc : u.converted H q info = .ok c)
    {fields : List (String × Held V)} (hfields : mergedFields? H u info.type c = some fields)
    {e : Except Fault (Option Fault) × PlainWorld V} :
    (notingAdapter H d).applyChange .target q u e ↔ (do
      (notingAdapter H d).mergeInto .target q fields
      return (none : Option Fault)) u e := by
  rw [applyChange_iff hplain, hc]
  cases htype : info.type with
  | record declared =>
    rw [htype] at hfields
    dsimp only
    rw [show fields? H u c = some fields from hfields]
  | _ =>
    rw [htype] at hfields
    cases hfields

theorem applyChange_ends_of_fields (hplain : IsPlain d q info) (hc : u.converted H q info = .ok c)
    {fields : List (String × Held V)} (hfields : mergedFields? H u info.type c = some fields)
    (hmerge : Ends ((notingAdapter H d).mergeInto .target q fields) u ⟨⟩ x) :
    Ends ((notingAdapter H d).applyChange .target q) u none x := by
  intro e
  rw [applyChange_iff_of_fields hplain hc hfields]
  exact hmerge.bind (.pure none x) e

theorem applyChange_breaks_of_fields (hplain : IsPlain d q info) (hc : u.converted H q info = .ok c)
    {fields : List (String × Held V)} (hfields : mergedFields? H u info.type c = some fields)
    {f : Fault} (hmerge : Breaks ((notingAdapter H d).mergeInto .target q fields) u f x) :
    Breaks ((notingAdapter H d).applyChange .target q) u f x := by
  intro e
  rw [applyChange_iff_of_fields hplain hc hfields]
  exact hmerge.bind e

/-! ## The next name -/

/-- Of a batch whose names are written to the target one after another, some are done, and `q` is the
next one. -/
structure IsNext (H : Handling V) (d : AdapterDefinition (Held V)) (names done : List String)
    (q : String) (w u : PlainWorld V) : Prop where
  applied : Applied H d done w u
  values : u.element.values = w.element.values
  unshared : Unshared H d names w
  independent : Independent H d names w
  sub : ∀ name ∈ done, name ∈ names
  mem : q ∈ names
  new : q ∉ done

namespace IsNext

variable (h : IsNext H d names done q w u)

include h

theorem ne (hname : name ∈ done) : q ≠ name :=
  fun heq => h.new (heq ▸ hname)

theorem agrees : AgreesFor H d names w q u.records := fun place hplace hnone =>
  h.applied.records place hplace fun name hname => hnone name (h.sub name hname) (h.ne hname).symm

/-- The value is converted to what it would have been converted to at first. -/
theorem converted_eq (hplain : IsPlain d q info) :
    u.converted H q info = w.converted H q info := by
  rw [converted, value, h.values, ← value]
  exact h.independent.convert q h.mem info hplain _ h.agrees

theorem lookup_eq : u.attributes.lookup q = w.attributes.lookup q :=
  h.applied.others q fun _ _ hmem => absurd hmem h.new

theorem targetValue_eq : u.targetValue H q = w.targetValue H q :=
  targetValue_of_lookup h.lookup_eq

/-- The record that fields of the property are put into is still as it was. -/
theorem record_eq {place : Nat} (hmerges : Merges H d w q place) :
    u.records.getD place [] = w.records.getD place [] := by
  refine h.applied.records place (h.unshared.merges_lt hmerges) fun name hname => ?_
  exact h.unshared.merges_alone h.mem hmerges (h.ne hname).symm

/-- A converted value reaches the target without touching what reached it before. -/
theorem snoc (hplain : IsPlain d q info) (hc : w.converted H q info = .ok c)
    (hreach : Reaches H info.type q c w x) (hsize : u.records.length ≤ x.records.length)
    (hlookup : ∀ name ≠ q, x.attributes.lookup name = u.attributes.lookup name)
    (hrecords : ∀ place < u.records.length, ¬ Merges H d w q place →
      x.records.getD place [] = u.records.getD place []) :
    Applied H d (done ++ [q]) w x where
  size := Nat.le_trans h.applied.size hsize
  reached name hname other c' hother hc' := by
    rcases List.mem_append.1 hname with hname | hname
    · have hne := (h.ne hname).symm
      refine (h.applied.reached name hname other c' hother hc').later (hlookup name hne) hsize ?_ ?_
      · intro fields place hfields hcurrent
        have hmerges : Merges H d w name place := ⟨other, c', fields, hother, hc', hfields, hcurrent⟩
        have hplace := Nat.lt_of_lt_of_le (h.unshared.merges_lt hmerges) h.applied.size
        exact hrecords place hplace (h.unshared.merges_alone (h.sub name hname) hmerges hne.symm)
      · intro place hplace hlt
        refine hrecords place hlt fun hmerges => ?_
        exact absurd (h.unshared.merges_lt hmerges) (Nat.not_lt.2 hplace)
    · obtain rfl := List.mem_singleton.1 hname
      obtain rfl := hplain.unique hother
      obtain rfl := Except.ok.inj (hc.symm.trans hc')
      exact hreach
  others name hname := by
    have hne : name ≠ q := by
      rintro rfl
      exact hname info c (by simp) hplain hc
    rw [hlookup name hne]
    exact h.applied.others name fun info c hmem => hname info c (List.mem_append_left _ hmem)
  records place hplace hmerges := by
    rw [hrecords place (Nat.lt_of_lt_of_le hplace h.applied.size) (hmerges q (by simp))]
    exact h.applied.records place hplace fun name hmem => hmerges name (List.mem_append_left _ hmem)

/-! ### Ways to write it -/

section Written

variable (hplain : IsPlain d q info) (hc : w.converted H q info = .ok c)

include hplain hc

theorem replaced (hfields : mergedFields? H w info.type c = none) :
    Applied H d (done ++ [q]) w (u.put q c) := by
  refine h.snoc hplain hc ?_ (Nat.le_refl _) (fun name hname => ?_) fun _ _ _ => rfl
  · exact .replaced hfields (Entries.lookup_put_self _ _ _)
  · exact Entries.lookup_put_of_ne _ _ hname

variable {fields : List (String × Held V)} (hfields : mergedFields? H w info.type c = some fields)

include hfields

theorem made (hnothing : isNothing H (w.targetValue H q) = true) :
    Applied H d (done ++ [q]) w ((u.add fields).put q (.record u.records.length)) := by
  refine h.snoc hplain hc ?_ ?_ (fun name hname => ?_) fun place hplace _ => ?_
  · refine .made hfields hnothing h.applied.size ?_ (Entries.lookup_put_self _ _ _) ?_
    · simp [put, add]
    · simp [put, add]
  · simp [put, add]
  · exact Entries.lookup_put_of_ne _ _ hname
  · simp [put, add, List.getD_eq_getElem?_getD, List.getElem?_append_left hplace]

theorem merged {place : Nat} (hrecord : w.targetValue H q = .record place) :
    Applied H d (done ++ [q]) w (fields.foldl (merge H place) u) := by
  have hmerges : Merges H d w q place := ⟨info, c, fields, hplain, hc, hfields, hrecord⟩
  have hplace := Nat.lt_of_lt_of_le (h.unshared.merges_lt hmerges) h.applied.size
  have hmerge := foldl_merge_isMerge (H := H) place u fields
  refine h.snoc hplain hc ?_ hmerge.size.ge (fun name _ => ?_) fun other _ hnot => ?_
  · refine .merged hfields hrecord ?_ ?_
    · rw [hmerge.attributes, h.lookup_eq]
    · rw [foldl_merge_entries hplace, h.record_eq hmerges]
  · rw [hmerge.attributes]
  · refine hmerge.others other ?_
    rintro rfl
    exact hnot hmerges

end Written

/-- A change whose value is converted is written, in one of these ways. -/
theorem applyChange_of_ok (hplain : IsPlain d q info)
    (hc : w.converted H q info = .ok c) :
    ∃ x, Ends ((notingAdapter H d).applyChange .target q) u none x ∧
      Applied H d (done ++ [q]) w x := by
  have hsame : u.converted H q info = .ok c := (h.converted_eq hplain).trans hc
  have hmade := h.independent.fields q h.mem info c hplain hc u h.agrees
  cases hfields : mergedFields? H w info.type c with
  | none => exact ⟨_, applyChange_ends_of_whole hplain hsame (hmade.trans hfields),
      h.replaced hplain hc hfields⟩
  | some fields =>
    rcases h.unshared.opened q h.mem info c fields hplain hc hfields with hnothing | ⟨place, hrecord⟩
    · have hmerge := mergeInto_ends_of_nothing (d := d) (h.targetValue_eq ▸ hnothing) fields
      exact ⟨_, applyChange_ends_of_fields hplain hsame (hmade.trans hfields) hmerge,
        h.made hplain hc hfields hnothing⟩
    · have hmerge := mergeInto_ends_of_record (d := d) (h.targetValue_eq.trans hrecord) fields
      exact ⟨_, applyChange_ends_of_fields hplain hsame (hmade.trans hfields) hmerge,
        h.merged hplain hc hfields hrecord⟩

/-- The next name is written as it would have been at first. -/
theorem applyChange
    (hconv : ∀ info f, IsPlain d q info → w.converted H q info = .error f → f.kind = .conversion) :
    ∃ x, Ends ((notingAdapter H d).applyChange .target q) u (w.failure? H d q) x ∧
      Applied H d (done ++ [q]) w x := by
  by_cases hplain : ∃ info, IsPlain d q info
  · obtain ⟨info, hinfo⟩ := hplain
    rw [failure?_of_plain hinfo]
    cases hc : w.converted H q info with
    | ok c => exact h.applyChange_of_ok hinfo hc
    | error f =>
      refine ⟨u, fun e => ?_, h.applied.skip fun other c hother hok => ?_⟩
      · rw [applyChange_iff hinfo, h.converted_eq hinfo, hc]
        dsimp only
        rw [if_pos (hconv info f hinfo hc)]
      · obtain rfl := hinfo.unique hother
        rw [hc] at hok
        cases hok
  · have hother : ∀ info, ¬ IsPlain d q info := fun info hinfo => hplain ⟨info, hinfo⟩
    rw [failure?_of_other hother]
    refine ⟨u, applyChange_ends_of_other hother, h.applied.skip fun info _ hinfo => ?_⟩
    exact absurd hinfo (hother info)

end IsNext

/-! ## Batches -/

/-- The conversions of the names fail with nothing but the fault of a conversion. -/
def FailsSoftly (H : Handling V) (d : AdapterDefinition (Held V)) (names : List String)
    (w : PlainWorld V) : Prop :=
  ∀ name ∈ names, ∀ info f, IsPlain d name info → w.converted H name info = .error f →
    f.kind = .conversion

/-- The names that are left are written one after another, and their failures are collected. -/
theorem filterMapM_applied (hw : Unshared H d names w) (hindependent : Independent H d names w)
    (hconv : FailsSoftly H d names w) (hnodup : names.Nodup) {rest : List String}
    (hnames : names = done ++ rest) (hvalues : u.element.values = w.element.values)
    (h : Applied H d done w u) :
    ∃ x, Ends (rest.filterMapM ((notingAdapter H d).applyChange .target)) u
      (rest.filterMap (w.failure? H d)) x ∧ Applied H d names w x := by
  induction rest generalizing done u with
  | nil =>
    obtain rfl : names = done := by simpa using hnames
    exact ⟨u, .pure [] u, h⟩
  | cons q rest ih =>
    have hsub (name : String) (hname : name ∈ done) : name ∈ names := by simp [hnames, hname]
    have hq : q ∈ names := by simp [hnames]
    have hnew : q ∉ done := fun hmem => by
      rw [hnames] at hnodup
      exact (List.nodup_append.1 hnodup).2.2 q hmem q List.mem_cons_self rfl
    have hnext : IsNext H d names done q w u := ⟨h, hvalues, hw, hindependent, hsub, hq, hnew⟩
    obtain ⟨t, hfirst, ht⟩ := hnext.applyChange (hconv q hq)
    have hkept : KeepsAdapter u t := applyChange_keepsAdapter _ _ _ _ _ ((hfirst _).2 rfl)
    have hlater : t.element.values = w.element.values := by rw [hkept.1, hvalues]
    obtain ⟨x, hrest, hx⟩ := ih (by simp [hnames]) hlater ht
    refine ⟨x, ?_, hx⟩
    rw [List.filterMapM_cons, List.filterMap_cons]
    refine hfirst.bind ?_
    cases w.failure? H d q with
    | none => exact hrest
    | some f => exact hrest.bind (.pure _ x)

theorem taken_applied (w : PlainWorld V) : Applied H d [] w w.taken :=
  ⟨Nat.le_refl _, nofun, fun _ _ => rfl, fun _ _ _ => rfl⟩

/-- What is not written stays as it is, and so do the entries of its record. -/
theorem Applied.keeps (h : Applied H d names w x) (hw : Unshared H d names w)
    (hname : ∀ info c, name ∈ names → IsPlain d name info → w.converted H name info ≠ .ok c) :
    x.attributes.lookup name = w.attributes.lookup name ∧
      ∀ place, w.attributes.lookup name = some (.record place) →
        x.records.getD place [] = w.records.getD place [] := by
  refine ⟨h.others name hname, fun place hplace => ?_⟩
  refine h.records place (hw.shown name place hplace) fun other hother hmerges => ?_
  by_cases hsame : name = other
  · subst hsame
    obtain ⟨info, c, -, hplain, hc, -⟩ := hmerges
    exact hname info c hother hplain hc
  · exact hw.alone other hother place hmerges name hsame hplace

/-! ## The order of a batch -/

/-- The attribute is the same in both: the same value, or a record with the same entries, which is
the same record unless both have made it, at a place from `new` on. -/
def SameShown (new : Nat) (x y : PlainWorld V) (name : String) : Prop :=
  match x.attributes.lookup name, y.attributes.lookup name with
  | some (.record p), some (.record q) =>
    (p = q ∨ new ≤ p ∧ new ≤ q) ∧ x.records.getD p [] = y.records.getD q []
  | a, b => a = b

theorem sameShown_of_records {new p q : Nat} (hx : x.attributes.lookup name = some (.record p))
    (hy : y.attributes.lookup name = some (.record q)) (hplace : p = q ∨ new ≤ p ∧ new ≤ q)
    (hentries : x.records.getD p [] = y.records.getD q []) : SameShown new x y name := by
  unfold SameShown
  rw [hx, hy]
  exact ⟨hplace, hentries⟩

theorem sameShown_of_eq {new : Nat} (h : y.attributes.lookup name = x.attributes.lookup name)
    (hentries : ∀ place, x.attributes.lookup name = some (.record place) →
      x.records.getD place [] = y.records.getD place []) : SameShown new x y name := by
  unfold SameShown
  rw [h]
  split
  · rename_i p q hp hq
    rw [hp] at hq
    cases hq
    exact ⟨.inl rfl, hentries p hp⟩
  · rfl

theorem Reaches.sameShown {t : TypeExpr} (hx : Reaches H t name c w x) (hy : Reaches H t name c w y)
    (hsame : ∀ place, c = .record place → x.records.getD place [] = y.records.getD place []) :
    SameShown w.records.length x y name := by
  cases hx with
  | replaced hnone hx =>
    cases hy with
    | replaced _ hy =>
      refine sameShown_of_eq (hy.trans hx.symm) fun place hplace => hsame place ?_
      exact Option.some.inj (hx.symm.trans hplace)
    | merged hfields | made hfields => cases hnone.symm.trans hfields
  | @merged fields place hfields hcurrent hx hxrecord =>
    cases hy with
    | replaced hnone => cases hnone.symm.trans hfields
    | merged hfields' hcurrent' hy hyrecord =>
      obtain rfl := Option.some.inj (hfields.symm.trans hfields')
      obtain rfl := Held.record.inj (hcurrent.symm.trans hcurrent')
      have hlookup := lookup_of_targetValue hcurrent
      exact sameShown_of_records (hx.trans hlookup) (hy.trans hlookup) (.inl rfl)
        (hxrecord.trans hyrecord.symm)
    | made _ hnothing =>
      rw [hcurrent] at hnothing
      cases hnothing
  | made hfields hnothing hxnew _ hx hxrecord =>
    cases hy with
    | replaced hnone => cases hnone.symm.trans hfields
    | merged _ hcurrent =>
      rw [hcurrent] at hnothing
      cases hnothing
    | made hfields' _ hynew _ hy hyrecord =>
      obtain rfl := Option.some.inj (hfields.symm.trans hfields')
      exact sameShown_of_records hx hy (.inr ⟨hxnew, hynew⟩) (hxrecord.trans hyrecord.symm)

/-- The record that fields were put into. -/
theorem Reaches.record_of_merged {t : TypeExpr} (h : Reaches H t name c w x)
    {fields : List (String × Held V)} {place : Nat} (hfields : mergedFields? H w t c = some fields)
    (hcurrent : w.targetValue H name = .record place) :
    x.records.getD place [] = putFields H (w.records.getD place []) fields := by
  cases h with
  | replaced hnone => cases hnone.symm.trans hfields
  | merged hfields' hcurrent' _ hrecord =>
    obtain rfl := Option.some.inj (hfields.symm.trans hfields')
    obtain rfl := Held.record.inj (hcurrent.symm.trans hcurrent')
    exact hrecord
  | made _ hnothing =>
    rw [hcurrent] at hnothing
    cases hnothing

/-- The records that were there are the same in two targets that the same names were written to. -/
theorem Applied.record_eq (hx : Applied H d names w x) (hy : Applied H d names w y) {place : Nat}
    (hplace : place < w.records.length) : x.records.getD place [] = y.records.getD place [] := by
  by_cases hmerged : ∃ name ∈ names, Merges H d w name place
  · obtain ⟨name, hname, info, c, fields, hplain, hc, hfields, hcurrent⟩ := hmerged
    rw [(hx.reached name hname info c hplain hc).record_of_merged hfields hcurrent,
      (hy.reached name hname info c hplain hc).record_of_merged hfields hcurrent]
  · have hnone : ∀ name ∈ names, ¬ Merges H d w name place :=
      fun name hname hmerges => hmerged ⟨name, hname, hmerges⟩
    exact (hx.records place hplace hnone).trans (hy.records place hplace hnone).symm

/-- Two targets that the same names were written to are the same, in whatever order they were. -/
theorem Applied.sameShown (hw : Unshared H d names w) (hindependent : Independent H d names w)
    (hx : Applied H d names w x) (hy : Applied H d names w y) (name : String) :
    SameShown w.records.length x y name := by
  by_cases hname : ∃ info c, name ∈ names ∧ IsPlain d name info ∧ w.converted H name info = .ok c
  · obtain ⟨info, c, hmem, hplain, hc⟩ := hname
    refine (hx.reached name hmem info c hplain hc).sameShown (hy.reached name hmem info c hplain hc) ?_
    rintro place rfl
    exact hx.record_eq hy (hindependent.there name hmem info place hplain hc)
  · have hnone : ∀ info c, name ∈ names → IsPlain d name info → w.converted H name info ≠ .ok c :=
      fun info c hmem hplain hc => hname ⟨info, c, hmem, hplain, hc⟩
    obtain ⟨hxlookup, hxrecord⟩ := hx.keeps hw hnone
    obtain ⟨hylookup, hyrecord⟩ := hy.keeps hw hnone
    refine sameShown_of_eq (hylookup.trans hxlookup.symm) fun place hplace => ?_
    rw [hxlookup] at hplace
    exact (hxrecord place hplace).trans (hyrecord place hplace).symm

/-! ### Other orders -/

/-- The adapter with other changes waiting. -/
def withBatch (w : PlainWorld V) (changed : List (String × Held V)) : PlainWorld V :=
  { w with element := { w.element with changed } }

section Reordered

variable {others : List String} (hmem : ∀ name, name ∈ others ↔ name ∈ names)
  (changed : List (String × Held V))

include hmem

theorem Unshared.reordered (hw : Unshared H d names w) :
    Unshared H d others (w.withBatch changed) where
  opened name hname := hw.opened name ((hmem name).1 hname)
  alone name hname := hw.alone name ((hmem name).1 hname)
  shown := hw.shown

theorem Independent.reordered (hw : Independent H d names w) :
    Independent H d others (w.withBatch changed) := by
  have hagrees {name : String} {rs : Records V}
      (h : AgreesFor H d others (w.withBatch changed) name rs) : AgreesFor H d names w name rs :=
    fun place hplace hnone => h place hplace fun other hother =>
      hnone other ((hmem other).1 hother)
  constructor
  case convert =>
    intro name hname info hplain rs hrs
    exact hw.convert name ((hmem name).1 hname) info hplain rs (hagrees hrs)
  case fields =>
    intro name hname info c hplain hc u hu
    exact hw.fields name ((hmem name).1 hname) info c hplain hc u (hagrees hu)
  case there =>
    intro name hname info place hplain hc
    exact hw.there name ((hmem name).1 hname) info place hplain hc

omit hmem in
theorem Reaches.of_withBatch {t : TypeExpr} (h : Reaches H t name c (w.withBatch changed) x) :
    Reaches H t name c w x := by
  cases h with
  | replaced hfields hlookup => exact .replaced hfields hlookup
  | merged hfields hcurrent hlookup hrecord => exact .merged hfields hcurrent hlookup hrecord
  | made hfields hcurrent hold hnew hlookup hrecord =>
    exact .made hfields hcurrent hold hnew hlookup hrecord

theorem Applied.of_reordered (h : Applied H d others (w.withBatch changed) x) :
    Applied H d names w x where
  size := h.size
  reached name hname info c hplain hc :=
    (h.reached name ((hmem name).2 hname) info c hplain hc).of_withBatch changed
  others name hname := h.others name fun info c hother => hname info c ((hmem name).1 hother)
  records place hplace hmerges :=
    h.records place hplace fun name hother => hmerges name ((hmem name).1 hother)

end Reordered

/-! ## Batches with failures -/

/-- The name is none that the batch writes: it is not in the batch, not declared, computed, hidden by
the adapter, or the value that the adapter has for it cannot be converted. -/
def IsLeftAlone (H : Handling V) (d : AdapterDefinition (Held V)) (w : PlainWorld V) (name : String) :
    Prop :=
  name ∉ w.changedNames ∨ d.metadata.properties.lookup name = none ∨
    (d.metadata.computed.lookup name).isSome ∨ d.isAttribute name = false ∨
    (w.failure? H d name).isSome

theorem IsLeftAlone.not_converted (hd : d.metadata.IsSeparate) (h : IsLeftAlone H d w name)
    (hmem : name ∈ w.changedNames) (hplain : IsPlain d name info) : w.converted H name info ≠ .ok c := by
  rcases h with hnot | hunknown | hcomputed | hhidden | hfailed
  · exact absurd hmem hnot
  · cases hplain.known.symm.trans hunknown
  · rw [hd name info hplain.known] at hcomputed
    cases hcomputed
  · cases hplain.shown.symm.trans hhidden
  · intro hc
    rw [failure?_of_plain hplain, hc] at hfailed
    cases hfailed

/-- What the batch of `w` leaves in `x`: every property whose value was converted has been written to
the target, all else of the target is as before, and nothing is waiting any more. -/
structure IsWritten (H : Handling V) (d : AdapterDefinition (Held V)) (w x : PlainWorld V) : Prop where
  reached : ∀ name ∈ w.changedNames, ∀ info c, IsPlain d name info → w.converted H name info = .ok c →
    Reaches H info.type name c w x
  kept : ∀ name, IsLeftAlone H d w name →
    x.attributes.lookup name = w.attributes.lookup name ∧
      ∀ place, w.attributes.lookup name = some (.record place) →
        x.records.getD place [] = w.records.getD place []
  phase : x.state.phase = .converted
  idle : x.element.isPending = false

theorem Applied.isWritten (h : Applied H d w.changedNames w x) (hd : d.metadata.IsSeparate)
    (hw : Unshared H d w.changedNames w) (hphase : x.state.phase = .converted)
    (hidle : x.element.isPending = false) : IsWritten H d w x where
  reached := h.reached
  kept _ hname := h.keeps hw fun _ _ hmem hplain => hname.not_converted hd hmem hplain
  phase := hphase
  idle := hidle

/-- The target, the phase of the adapter and what is waiting are left as they are. -/
structure LeavesAlone (x t : PlainWorld V) : Prop where
  attributes : t.attributes = x.attributes
  records : t.records = x.records
  phase : t.state.phase = x.state.phase
  changed : t.element.changed = x.element.changed

theorem leavesAlone_isStep : IsStep (LeavesAlone (V := V)) where
  refl _ := ⟨rfl, rfl, rfl, rfl⟩
  trans h₁ h₂ := ⟨h₂.attributes.trans h₁.attributes, h₂.records.trans h₁.records,
    h₂.phase.trans h₁.phase, h₂.changed.trans h₁.changed⟩

/-- The batch of `w` is handed out, and `x` is what it leaves before anybody is told of it. -/
structure HandsOut (H : Handling V) (d : AdapterDefinition (Held V))
    (tell : Held V → List String → Possibly (PlainWorld V) Unit) (w x : PlainWorld V) : Prop
    extends IsWritten H d w x where
  /-- The first failure in the order of the batch is raised, and nobody is told. -/
  raised : ∀ f, w.changedNames.findSome? (w.failure? H d) = some f → ∀ e,
    (tellingAdapter H d tell).element.performUpdate w e ↔ e = (.error f, x)
  /-- If nothing failed, the subscribers are told, and no failure of theirs is raised. -/
  told : w.changedNames.findSome? (w.failure? H d) = none → ∀ e,
    (tellingAdapter H d tell).element.performUpdate w e ↔
      ∃ t, deliver (tell · w.changedNames) w.element.subscribers x (.ok (), t) ∧ e = (.ok true, t)
  /-- In the end all is as it was left, unless a subscriber has changed it. -/
  left : (∀ s ∈ w.element.subscribers, Advances LeavesAlone (tell s w.changedNames)) →
    ∀ outcome t, (tellingAdapter H d tell).element.performUpdate w (outcome, t) →
      LeavesAlone x t ∧ IsWritten H d w t

theorem performUpdate_iff_of_writes (tell : Held V → List String → Possibly (PlainWorld V) Unit)
    (htarget : w.state.target = some .target) (hpending : w.element.isPending = true)
    {fs : List Fault} (hwrites : Ends
      (w.changedNames.filterMapM ((notingAdapter H d).applyChange .target)) w.taken fs u)
    {e : Except Fault Bool × PlainWorld V} :
    (tellingAdapter H d tell).element.performUpdate w e ↔
      match fs with
      | [] => ∃ t, deliver (tell · w.changedNames) w.element.subscribers (finished (updated u))
          (.ok (), t) ∧ e = (.ok true, t)
      | f :: _ => e = (.error f, updated u) := by
  rw [performUpdate_telling_iff tell htarget hpending]
  constructor
  · rintro ⟨inner, x, hrun, hrest⟩
    obtain ⟨rfl, rfl⟩ := Prod.mk.inj ((hwrites _).1 hrun)
    cases fs with
    | nil => exact hrest
    | cons f fs => exact hrest
  · intro hrest
    refine ⟨.ok fs, u, (hwrites _).2 rfl, ?_⟩
    cases fs with
    | nil => exact hrest
    | cons f fs => exact hrest

/-- A batch whose conversions succeed or fail as conversions do is handed out to one end, up to what
the subscribers do. -/
theorem exists_handsOut (tell : Held V → List String → Possibly (PlainWorld V) Unit)
    (hd : d.metadata.IsSeparate) (htarget : w.state.target = some .target)
    (hpending : w.element.isPending = true) (hnodup : w.changedNames.Nodup)
    (hw : Unshared H d w.changedNames w) (hindependent : Independent H d w.changedNames w)
    (hconv : FailsSoftly H d w.changedNames w) :
    ∃ x, HandsOut H d tell w x ∧ Applied H d w.changedNames w x := by
  have hnames : w.changedNames = [] ++ w.changedNames := rfl
  have hvalues : w.taken.element.values = w.element.values := rfl
  obtain ⟨u, hwrites, hu⟩ :=
    filterMapM_applied hw hindependent hconv hnodup hnames hvalues (taken_applied w)
  have hkept : KeepsAdapter w.taken u := Writes.keepsAdapter ((hwrites _).2 rfl)
  have hidle : u.element.isPending = false := by
    rw [hkept.1]
    rfl
  have hwritten {x : PlainWorld V} (hx : LeavesAlone (updated u) x) : IsWritten H d w x := by
    refine (hu.of_target hx.attributes hx.records).isWritten hd hw hx.phase ?_
    rw [ElementState.isPending, hx.changed]
    exact hidle
  have hfirst := List.head?_filterMap (f := w.failure? H d) (l := w.changedNames)
  generalize w.changedNames.filterMap (w.failure? H d) = failures at hwrites hfirst
  have hperform {e : Except Fault Bool × PlainWorld V} :=
    performUpdate_iff_of_writes (e := e) tell htarget hpending hwrites
  cases failures with
  | nil =>
    have hx : LeavesAlone (updated u) (finished (updated u)) := ⟨rfl, rfl, rfl, rfl⟩
    refine ⟨finished (updated u), ⟨hwritten hx, fun f hf => ?_, fun _ e => hperform,
      fun hleaves outcome t hrun => ?_⟩, hu.of_target rfl rfl⟩
    · cases hfirst.trans hf
    · obtain ⟨v, htold, heq⟩ := hperform.1 hrun
      obtain ⟨-, rfl⟩ := Prod.mk.inj heq
      have hleft := Advances.deliver leavesAlone_isStep hleaves _ _ _ htold
      exact ⟨hleft, hwritten (leavesAlone_isStep.trans hx hleft)⟩
  | cons g gs =>
    have hx := leavesAlone_isStep.refl (updated u)
    refine ⟨updated u, ⟨hwritten hx, fun f hf e => ?_, fun hnone => ?_, fun _ outcome t hrun => ?_⟩,
      hu.of_target rfl rfl⟩
    · obtain rfl := Option.some.inj (hfirst.trans hf)
      exact hperform
    · cases hfirst.trans hnone
    · obtain ⟨-, rfl⟩ := Prod.mk.inj (hperform.1 hrun)
      exact ⟨hx, hwritten hx⟩

/-- A batch is handed out whose conversions succeed or fail as conversions do, each as it would
before the rest of the batch is written. Every property whose value was converted has been written
to the target before the subscribers are told, and all else of the target is as before. The failure
that is raised, if there is one, is the first in the order of the batch. In any other order of the
batch the target would be the same. -/
theorem batch_applied_in_any_order (tell : Held V → List String → Possibly (PlainWorld V) Unit)
    (hd : d.metadata.IsSeparate) (htarget : w.state.target = some .target)
    (hpending : w.element.isPending = true) (hnodup : w.changedNames.Nodup)
    (hw : Unshared H d w.changedNames w) (hindependent : Independent H d w.changedNames w)
    (hconv : FailsSoftly H d w.changedNames w) :
    ∃ x, HandsOut H d tell w x ∧ ∀ changed, changed.Perm w.element.changed →
      ∃ y, HandsOut H d tell (w.withBatch changed) y ∧
        ∀ name, SameShown w.records.length x y name := by
  obtain ⟨x, hx, hxapplied⟩ :=
    exists_handsOut tell hd htarget hpending hnodup hw hindependent hconv
  refine ⟨x, hx, fun changed hperm => ?_⟩
  have hnames : (w.withBatch changed).changedNames.Perm w.changedNames := hperm.map _
  have hmem (name : String) : name ∈ (w.withBatch changed).changedNames ↔ name ∈ w.changedNames :=
    hnames.mem_iff
  have hpending' : (w.withBatch changed).element.isPending = true := by
    have hlength := hperm.length_eq
    cases changed with
    | nil => simp_all [ElementState.isPending]
    | cons => rfl
  obtain ⟨y, hy, hyapplied⟩ := exists_handsOut (w := w.withBatch changed) tell hd htarget hpending'
    (hnames.nodup_iff.2 hnodup) (hw.reordered hmem changed) (hindependent.reordered hmem changed)
    fun name hname => hconv name ((hmem name).1 hname)
  exact ⟨y, hy, hxapplied.sameShown hw hindependent (hyapplied.of_reordered hmem changed)⟩

/-! ## A batch with a failure -/

/-- Where a box is. -/
def spotInfo : PropertyInfo :=
  ⟨"spot", .record [("x", .scalar "number"), ("y", .scalar "number")], "where it is"⟩

/-- What a box is marked with. -/
def marksInfo : PropertyInfo :=
  ⟨"marks", .union [.array (.scalar "number"), .array (.scalar "string")], "what is on it"⟩

/-- How large a box is. -/
def sizeInfo : PropertyInfo := ⟨"size", .scalar "number", "how large it is"⟩

/-- Adapters of a class with marks, a place and a size, and with an area that it computes. -/
def boxDefinition : AdapterDefinition (Held Datum) where
  className := "Box"
  metadata := { Metadata.empty with
    properties := [("marks", marksInfo), ("spot", spotInfo), ("size", sizeInfo)]
    computed := [("area", ⟨"area", true, true, .scalar "number"⟩)] }
  attributes := ["marks", "spot", "size", "area"]
  methods := []
  statics := []
  eventPrefix := "on-"
  shadowed := []

/-- A box to whose properties was written, to its marks what is no list of any kind. -/
def boxWorld : PlainWorld Datum where
  element := { ElementState.empty with
    values := [("marks", .value (.bool true)), ("spot", .value (.record [("x", .int 5)])),
      ("size", .value (.int 3))]
    changed := [("ghost", .value .null), ("marks", .value .null), ("area", .value (.int 1)),
      ("spot", .record 0), ("size", .value (.int 1))] }
  state := ⟨.observed, [], some .target⟩
  attributes := [("marks", .value .null), ("spot", .record 0), ("size", .value (.int 1)),
    ("area", .value (.int 1))]
  records := [[("x", .value (.int 1)), ("y", .value (.int 2))]]

theorem marks_fail : ∃ f, boxWorld.converted (.ofData false) "marks" marksInfo = .error f ∧
    f.kind = .conversion :=
  ⟨_, rfl, rfl⟩

theorem spot_converted : boxWorld.converted (.ofData false) "spot" spotInfo =
    .ok (.value (.record [("x", .int 5), ("y", .null)])) := rfl

theorem size_converted : boxWorld.converted (.ofData false) "size" sizeInfo =
    .ok (.value (.int 3)) := rfl

theorem box_isPlain_cases (h : IsPlain boxDefinition name info) :
    name = "marks" ∧ info = marksInfo ∨ name = "spot" ∧ info = spotInfo ∨
      name = "size" ∧ info = sizeInfo := by
  have hmem := Entries.mem_of_lookup h.known
  simpa [boxDefinition] using hmem

/-- Only the place is a record. -/
theorem box_merged {c : Held Datum} {fields : List (String × Held Datum)}
    (h : IsPlain boxDefinition name info)
    (hfields : mergedFields? (.ofData false) boxWorld info.type c = some fields) : name = "spot" := by
  rcases box_isPlain_cases h with ⟨-, rfl⟩ | ⟨rfl, -⟩ | ⟨-, rfl⟩
  · cases hfields
  · rfl
  · cases hfields

theorem box_attribute {place : Nat} (h : boxWorld.attributes.lookup name = some (.record place)) :
    name = "spot" ∧ place = 0 := by
  simpa [boxWorld] using Entries.mem_of_lookup h

theorem box_value (name : String) (place : Nat) :
    boxWorld.value (.ofData false) name ≠ .record place := by
  unfold value
  cases hlookup : boxWorld.element.values.lookup name with
  | none => exact nofun
  | some z =>
    rintro rfl
    simpa [boxWorld] using Entries.mem_of_lookup hlookup

theorem box_unshared : Unshared (.ofData false) boxDefinition boxWorld.changedNames boxWorld where
  opened name _ info c fields hplain _ hfields := by
    obtain rfl := box_merged hplain hfields
    exact .inr ⟨0, rfl⟩
  alone name _ place hmerges other hother := by
    obtain ⟨info, c, fields, hplain, -, hfields, -⟩ := hmerges
    obtain rfl := box_merged hplain hfields
    exact fun hlookup => hother (box_attribute hlookup).1
  shown name place h := by
    rw [(box_attribute h).2]
    decide

theorem box_independent :
    Independent (.ofData false) boxDefinition boxWorld.changedNames boxWorld :=
  .of_isLocal (isLocal_ofData false) fun name _ place h => absurd h (box_value name place)

theorem box_failsSoftly : FailsSoftly (.ofData false) boxDefinition boxWorld.changedNames boxWorld := by
  rintro name - info f hplain hf
  rcases box_isPlain_cases hplain with ⟨rfl, rfl⟩ | ⟨rfl, rfl⟩ | ⟨rfl, rfl⟩
  · obtain ⟨g, hg, hkind⟩ := marks_fail
    obtain rfl := Except.error.inj (hg.symm.trans hf)
    exact hkind
  · cases spot_converted.symm.trans hf
  · cases size_converted.symm.trans hf

theorem marks_failure : ∃ f, f.kind = .conversion ∧
    boxWorld.failure? (.ofData false) boxDefinition "marks" = some f := by
  obtain ⟨f, hf, hkind⟩ := marks_fail
  refine ⟨f, hkind, ?_⟩
  rw [failure?_of_plain ⟨rfl, rfl⟩, hf]

theorem box_isSeparate : boxDefinition.metadata.IsSeparate := by
  intro name info hlookup
  have hmem := List.mem_map_of_mem (f := (·.1)) (Entries.mem_of_lookup hlookup)
  have hnames : name = "marks" ∨ name = "spot" ∨ name = "size" := by simpa [boxDefinition] using hmem
  rcases hnames with rfl | rfl | rfl <;> rfl

/-- The failure of the marks is raised, with the place and the size written and nothing else, and
the same in the opposite order. -/
theorem box_written_without_marks :
    ∃ f x y, f.kind = .conversion ∧
      (∀ e, (tellingAdapter (.ofData false) boxDefinition fun _ _ => pure ()).element.performUpdate
        boxWorld e ↔ e = (.error f, x)) ∧
      x.attributes.lookup "spot" = some (.record 0) ∧
      x.records.getD 0 [] = [("x", .value (.int 5)), ("y", .value (.int 2))] ∧
      x.attributes.lookup "size" = some (.value (.int 3)) ∧
      x.attributes.lookup "marks" = some (.value .null) ∧
      x.attributes.lookup "area" = some (.value (.int 1)) ∧
      (∀ e, (tellingAdapter (.ofData false) boxDefinition fun _ _ => pure ()).element.performUpdate
        (boxWorld.withBatch boxWorld.element.changed.reverse) e ↔ e = (.error f, y)) ∧
      ∀ name, SameShown 1 x y name := by
  obtain ⟨f, hkind, hfailure⟩ := marks_failure
  obtain ⟨x, hx, hothers⟩ := batch_applied_in_any_order (fun _ _ => pure ()) box_isSeparate rfl rfl
    (by decide) box_unshared box_independent box_failsSoftly
  obtain ⟨y, hy, hsame⟩ := hothers _ (List.reverse_perm _)
  have hraised := hx.raised f (by
    rw [show boxWorld.changedNames = ["ghost", "marks", "area", "spot", "size"] from rfl,
      List.findSome?_cons_of_isNone rfl, List.findSome?_cons_of_isSome (by rw [hfailure]; rfl),
      hfailure])
  have hraised' := hy.raised f (by
    rw [show (boxWorld.withBatch boxWorld.element.changed.reverse).changedNames =
      ["size", "spot", "area", "marks", "ghost"] from rfl, List.findSome?_cons_of_isNone rfl,
      List.findSome?_cons_of_isNone rfl, List.findSome?_cons_of_isNone rfl,
      List.findSome?_cons_of_isSome (by exact hfailure ▸ rfl)]
    exact hfailure)
  have hspot := hx.reached "spot" (by decide) spotInfo _ ⟨rfl, rfl⟩ spot_converted
  have hsize := hx.reached "size" (by decide) sizeInfo _ ⟨rfl, rfl⟩ size_converted
  have hmarks := hx.kept "marks" (.inr (.inr (.inr (.inr (by rw [hfailure]; rfl)))))
  have harea := hx.kept "area" (.inr (.inr (.inl rfl)))
  refine ⟨f, x, y, hkind, hraised, ?_, ?_, ?_, hmarks.1, harea.1, hraised', hsame⟩
  · cases hspot with
    | replaced hnone => cases hnone
    | merged _ _ hlookup => exact hlookup
    | made _ hnothing => cases hnothing
  · exact hspot.record_of_merged rfl rfl
  · cases hsize with
    | replaced _ hlookup => exact hlookup
    | merged hfields => cases hfields
    | made hfields => cases hfields

/-! ## Batches whose order is seen -/

/-- Adapters of a class with two places. -/
def lineDefinition : AdapterDefinition (Held Datum) where
  className := "Line"
  metadata := { Metadata.empty with
    properties := ["start", "end"].map fun name =>
      (name, ⟨name, .record [("x", .scalar "number")], "an end"⟩) }
  attributes := ["start", "end"]
  methods := []
  statics := []
  eventPrefix := "on-"
  shadowed := []

/-- A line of which one end is to be moved, and the other end is to be where the first one is. -/
def lineWorld : PlainWorld Datum where
  element := { ElementState.empty with
    values := [("start", .value (.record [("x", .int 5)])), ("end", .record 0)]
    changed := [("start", .record 0), ("end", .record 1)]
    subscribers := [.value .null] }
  state := ⟨.observed, [], some .target⟩
  attributes := [("start", .record 0), ("end", .record 1)]
  records := [[("x", .value (.int 1))], [("x", .value (.int 2))]]

/-- An end is moved in its own record. -/
theorem line_applyChange {u : PlainWorld Datum} {place : Nat} {n : Int} (hplain : IsPlain lineDefinition name info)
    (htype : info.type = .record [("x", .scalar "number")])
    (hc : u.converted (.ofData false) name info = .ok (.value (.record [("x", .int n)])))
    (hplace : u.targetValue (.ofData false) name = .record place) :
    Ends ((notingAdapter (.ofData false) lineDefinition).applyChange .target name) u none
      (u.putEntry place "x" (.value (.int n))) := by
  have hmerge := mergeInto_ends_of_record (d := lineDefinition) hplace [("x", .value (.int n))]
  refine applyChange_ends_of_fields hplain hc ?_ hmerge
  rw [htype]
  rfl

theorem line_attribute {place : Nat} (h : lineWorld.attributes.lookup name = some (.record place)) :
    name = "start" ∧ place = 0 ∨ name = "end" ∧ place = 1 := by
  simpa [lineWorld] using Entries.mem_of_lookup h

theorem line_unshared : Unshared (.ofData false) lineDefinition lineWorld.changedNames lineWorld where
  opened name hname _ _ _ _ _ _ := by
    rcases List.mem_pair.1 hname with rfl | rfl
    · exact .inr ⟨0, rfl⟩
    · exact .inr ⟨1, rfl⟩
  alone name _ place hmerges other hother hlookup := by
    obtain ⟨info, c, fields, -, -, -, hcurrent⟩ := hmerges
    rcases line_attribute (lookup_of_targetValue hcurrent) with ⟨rfl, rfl⟩ | ⟨rfl, rfl⟩
    · exact hother ((line_attribute hlookup).resolve_right (by simp)).1
    · exact hother ((line_attribute hlookup).resolve_left (by simp)).1
  shown name place hlookup := by
    rcases line_attribute hlookup with ⟨-, rfl⟩ | ⟨-, rfl⟩ <;> decide

/-- Where a value that waits is a record of the target that the batch puts fields into, the order of
the batch is seen. A subscriber that writes a property leaves a change waiting. -/
theorem line_order_seen :
    lineDefinition.metadata.IsSeparate ∧
      Unshared (.ofData false) lineDefinition lineWorld.changedNames lineWorld ∧
      FailsSoftly (.ofData false) lineDefinition lineWorld.changedNames lineWorld ∧
      (∃ x y, (adapter (.ofData false) lineDefinition).element.performUpdate lineWorld (.ok true, x) ∧
        (adapter (.ofData false) lineDefinition).element.performUpdate
          (lineWorld.withBatch lineWorld.element.changed.reverse) (.ok true, y) ∧
        x.records.getD 1 [] = [("x", .value (.int 5))] ∧
        y.records.getD 1 [] = [("x", .value (.int 1))]) ∧
      ∃ t, (tellingAdapter (.ofData false) lineDefinition fun _ _ =>
          (adapter (.ofData false) lineDefinition).setProperty "start" (.value (.int 7))
        ).element.performUpdate lineWorld (.ok true, t) ∧
        t.state.phase = .observed ∧ t.element.isPending = true := by
  let w := lineWorld
  let v := w.withBatch w.element.changed.reverse
  have hstart : IsPlain lineDefinition "start" ⟨"start", .record [("x", .scalar "number")], "an end"⟩ :=
    ⟨rfl, rfl⟩
  have hend : IsPlain lineDefinition "end" ⟨"end", .record [("x", .scalar "number")], "an end"⟩ :=
    ⟨rfl, rfl⟩
  -- The first end is moved first, and the other one is put where it is then.
  have hmoved : Ends (w.changedNames.filterMapM
      ((notingAdapter (.ofData false) lineDefinition).applyChange .target)) w.taken []
      ((w.taken.putEntry 0 "x" (.value (.int 5))).putEntry 1 "x" (.value (.int 5))) :=
    .bind (line_applyChange hstart rfl rfl rfl) (.bind (line_applyChange hend rfl rfl rfl) (.pure _ _))
  -- The other end is put where the first one was, which is moved then.
  have hput : Ends (v.changedNames.filterMapM
      ((notingAdapter (.ofData false) lineDefinition).applyChange .target)) v.taken []
      ((v.taken.putEntry 1 "x" (.value (.int 1))).putEntry 0 "x" (.value (.int 5))) :=
    .bind (line_applyChange hend rfl rfl rfl) (.bind (line_applyChange hstart rfl rfl rfl) (.pure _ _))
  refine ⟨?_, ?_, ?_, ⟨_, _, (performUpdate_iff rfl rfl).2 ⟨.ok [], _, (hmoved _).2 rfl, rfl⟩,
    (performUpdate_iff rfl rfl).2 ⟨.ok [], _, (hput _).2 rfl, rfl⟩, rfl, rfl⟩, ?_⟩
  · exact fun _ _ _ => rfl
  · exact line_unshared
  · rintro name hname info f hplain hf
    rcases List.mem_pair.1 hname with rfl | rfl
    · obtain rfl := hstart.unique hplain
      cases (rfl : _ = Except.ok (Held.value (Datum.record [("x", .int 5)]))).symm.trans hf
    · obtain rfl := hend.unique hplain
      cases (rfl : _ = Except.ok (Held.value (Datum.record [("x", .int 1)]))).symm.trans hf
  · let x := finished (updated ((w.taken.putEntry 0 "x" (.value (.int 5))).putEntry 1 "x"
      (.value (.int 5))))
    let t := written (.ofData false) x "start" (.value (.int 7))
    have hset : Ends ((adapter (.ofData false) lineDefinition).setProperty "start"
        (.value (.int 7))) x () t := setProperty_ends rfl rfl _
    have htold : deliver (fun _ => (adapter (.ofData false) lineDefinition).setProperty "start"
        (.value (.int 7))) w.element.subscribers x (.ok (), t) :=
      ⟨.ok (), t, ⟨.ok (), t, (hset _).2 rfl, rfl⟩, rfl⟩
    exact ⟨t, (performUpdate_iff_of_writes _ rfl rfl hmoved).2 ⟨t, htold, rfl⟩, rfl, rfl⟩

end PlainWorld

end SceneBridge
