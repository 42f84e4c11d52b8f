import SceneBridge.Proofs.ConversionSteps
import SceneBridge.Proofs.LastChange
import SceneBridge.Proofs.RecordMerge
import SceneBridge.Proofs.TypeReadings

/-!
# Converting what was converted

What a datum is converted to is converted to itself, by every type without choices. A number is a
number already, a value is one that its constructor makes, and a list or a record has been converted
item by item and field by field. What passed through the first time passes through again.
-/

namespace SceneBridge

/-! ## Names of fields -/

namespace TypeExpr

/-- The fields of every record in the type have different names. -/
inductive Keyed : TypeExpr → Prop
  | scalar (name : String) : Keyed (.scalar name)
  | array {element : TypeExpr} (helement : Keyed element) : Keyed (.array element)
  | union {as : List TypeExpr} (has : ∀ a ∈ as, Keyed a) : Keyed (.union as)
  | generic {name : String} {params : List TypeExpr} (hparams : ∀ p ∈ params, Keyed p) :
      Keyed (.generic name params)
  | record {fields : List (String × TypeExpr)} (hkeys : (fields.map (·.1)).Nodup)
      (hfields : ∀ f ∈ fields, Keyed f.2) : Keyed (.record fields)

theorem Reads.keyed {naive : Bool} {text : List Char} {t : TypeExpr} (h : Reads naive text t) :
    Keyed t := by
  induction h with
  | group _ _ ih => exact ih
  | array _ _ ih => exact .array ih
  | union _ hlength _ ih => exact .union (forall_right_of_zip hlength ih)
  | generic _ hlength _ ih => exact .generic (forall_right_of_zip hlength ih)
  | record _ hlength _ _ ih =>
    refine .record ?_ fun f hf => ?_
    · exact Entries.nodup_keys_putAll _ List.nodup_nil
    · have hmem := (Entries.mem_of_mem_putAll hf).resolve_left List.not_mem_nil
      exact forall_right_of_zip (p := fun f : String × TypeExpr => Keyed f.2) hlength ih f hmem
  | scalar => exact .scalar _

/-- Whatever a type is read from, the fields of its records have different names. -/
theorem keyed_ofText (naive : Bool) (text : String) : Keyed (ofText naive text) := by
  rw [ofText]
  split
  · rename_i t hparse
    exact (reads_of_parse hparse).keyed
  · exact .scalar _

end TypeExpr

namespace Conversion

variable {d r : Datum} {name : String} {p : Primitive} {kind : ValueKind}

/-! ## Coercions and constructors -/

/-- What was coerced is coerced to itself. -/
theorem coerce_again (h : coerce dataSurroundings p d = .ok r) :
    coerce dataSurroundings p r = .ok r := by
  unfold coerce at h
  rw [see_bind] at h
  cases p with
  | number =>
    obtain ⟨q, -, hlast⟩ := bind_eq_ok_iff.1 h
    obtain rfl := Except.ok.inj hlast
    cases q <;> rfl
  | float | int | boolean =>
    obtain ⟨a, -, hlast⟩ := bind_eq_ok_iff.1 h
    obtain rfl := Except.ok.inj hlast
    rfl
  | string =>
    cases d with
    | text s =>
      obtain rfl := Except.ok.inj h
      rfl
    | _ =>
      obtain ⟨a, -, hlast⟩ := bind_eq_ok_iff.1 h
      obtain rfl := Except.ok.inj hlast
      rfl

theorem accepts_of_build {args : List Datum} (h : dataSurroundings.build kind args = .ok r) :
    dataSurroundings.accepts kind r = .ok true := by
  obtain ⟨parts, -, hvalue⟩ := bind_eq_ok_iff.1 h
  obtain rfl := Except.ok.inj hvalue
  exact congrArg Except.ok (beq_self_eq_true kind)

/-- What a constructor makes of a datum is a value that the constructor makes. -/
theorem accepts_of_buildValue (h : buildValue dataSurroundings kind d = .ok r) :
    dataSurroundings.accepts kind r = .ok true := by
  cases hknown : dataSurroundings.accepts kind d with
  | error f => cases d <;> cases hknown
  | ok known =>
    cases known with
    | true =>
      rw [buildValue, hknown] at h
      obtain rfl := Except.ok.inj h
      exact hknown
    | false =>
      obtain heq | ⟨s, f, rfl, -, -, heq⟩ := buildValue_eq hknown
      · rw [heq] at h
        obtain ⟨qs, -, hbuild⟩ := bind_eq_ok_iff.1 h
        rw [buildFrom_eq] at hbuild
        exact accepts_of_build hbuild
      · rw [heq] at h
        exact accepts_of_build h

theorem ne_null_of_accepts (h : dataSurroundings.accepts kind r = .ok true) : r ≠ .null := by
  rintro rfl
  cases h

theorem buildValue_of_accepts (h : dataSurroundings.accepts kind r = .ok true) :
    buildValue dataSurroundings kind r = .ok r := by
  rw [buildValue, h]
  rfl

/-! ## One step into a type -/

/-- Converting the datum changes nothing. -/
def IsFixed (t : TypeExpr) (d : Datum) : Prop :=
  convertAs dataSurroundings false d t = .ok d

/-- What passed through passes through again. -/
theorem isFixed_of_eq {t : TypeExpr} (h : convertAs dataSurroundings false d t = .ok r) (hr : r = d) :
    IsFixed t r := by
  subst hr
  exact h

theorem isFixed_of_accepts (params : List TypeExpr)
    (hname : ValueKind.ofTypeName? name = some kind) (h : dataSurroundings.accepts kind r = .ok true) :
    IsFixed (.scalar name) r ∧ IsFixed (.generic name params) r := by
  have hnull := ne_null_of_accepts h
  constructor
  · rw [IsFixed, convertAs_value hnull hname, buildValue_of_accepts h, orDegrade_ok]
  · rw [IsFixed, convertAs, see_bind]
    split
    · exact absurd rfl hnull
    · simp only [constructor?_eq hname, ok_bind, h, if_true]
      rfl

theorem isFixed_scalar (h : convertAs dataSurroundings false d (.scalar name) = .ok r) :
    IsFixed (.scalar name) r := by
  have hpassed := isFixed_of_eq h
  by_cases hnull : d = .null
  · subst hnull
    rw [convertAs, see_bind] at h
    exact hpassed (Except.ok.inj h).symm
  cases hprimitive : primitive? name with
  | some p =>
    rw [convertAs_primitive hnull hprimitive] at h
    obtain hd | hcoerce := orDegrade_eq_ok h
    · exact hpassed hd
    · have hnull := coerce_ne_null hcoerce
      rw [IsFixed, convertAs_primitive hnull hprimitive, coerce_again hcoerce, orDegrade_ok]
  | none =>
    cases hkind : ValueKind.ofTypeName? name with
    | some kind =>
      rw [convertAs_value hnull hkind] at h
      obtain hd | hbuild := orDegrade_eq_ok h
      · exact hpassed hd
      · exact (isFixed_of_accepts [] hkind (accepts_of_buildValue hbuild)).1
    | none =>
      -- The name is that of any type, or of none that is known.
      rw [convertAs_scalar hnull, convertScalar, hprimitive] at h
      simp only [constructor?_eq hkind, ok_bind] at h
      split at h
      · exact hpassed (Except.ok.inj h).symm
      · exact hpassed (Except.ok.inj h).symm

theorem isFixed_generic {params : List TypeExpr}
    (h : convertAs dataSurroundings false d (.generic name params) = .ok r) :
    IsFixed (.generic name params) r := by
  have hpassed := isFixed_of_eq h
  have hsame := h
  rw [convertAs, see_bind] at hsame
  split at hsame
  · exact hpassed (Except.ok.inj hsame).symm
  cases hkind : ValueKind.ofTypeName? name with
  | none =>
    simp only [constructor?_eq hkind, ok_bind] at hsame
    exact hpassed (Except.ok.inj hsame).symm
  | some kind =>
    simp only [constructor?_eq hkind, ok_bind] at hsame
    obtain ⟨known, -, hsame⟩ := bind_eq_ok_iff.1 hsame
    split at hsame
    · exact hpassed (Except.ok.inj hsame).symm
    · obtain ⟨parts, -, hsame⟩ := bind_eq_ok_iff.1 hsame
      cases parts with
      | none => exact hpassed (Except.ok.inj hsame).symm
      | some parts =>
        obtain ⟨args, -, hbuild⟩ := bind_eq_ok_iff.1 hsame
        obtain hd | hbuild := orDegrade_eq_ok hbuild
        · exact hpassed hd
        · exact (isFixed_of_accepts _ hkind (accepts_of_build hbuild)).2

theorem isFixed_array {element : TypeExpr}
    (helement : ∀ d r, convertAs dataSurroundings false d element = .ok r → IsFixed element r)
    (h : convertAs dataSurroundings false d (.array element) = .ok r) :
    IsFixed (.array element) r := by
  have hpassed := isFixed_of_eq h
  have hsame := h
  rw [convertAs, see_bind] at hsame
  split at hsame
  · exact hpassed (Except.ok.inj hsame).symm
  · obtain ⟨items, -, hsame⟩ := bind_eq_ok_iff.1 hsame
    cases items with
    | none => exact hpassed (Except.ok.inj hsame).symm
    | some items =>
      obtain ⟨rs, hrs, hlist⟩ := bind_eq_ok_iff.1 hsame
      obtain rfl := Except.ok.inj hlist
      have hfixed : ∀ r ∈ rs, IsFixed element r := forall_mem_of_mapM hrs helement
      have hnull : Datum.list rs ≠ .null := by
        intro hnull
        cases hnull
      exact convertAs_array rfl hnull rfl (mapM_eq_ok_iff.2 (List.forall₂_same.2 hfixed))

theorem isFixed_record {fields : List (String × TypeExpr)} (hkeys : (fields.map (·.1)).Nodup)
    (hfields : ∀ f ∈ fields, ∀ d r, convertAs dataSurroundings false d f.2 = .ok r → IsFixed f.2 r)
    (h : convertAs dataSurroundings false d (.record fields) = .ok r) :
    IsFixed (.record fields) r := by
  have hpassed := isFixed_of_eq h
  have hsame := h
  rw [convertAs] at hsame
  obtain ⟨outcome, hsource, hsame⟩ := bind_eq_ok_iff.1 hsame
  cases outcome with
  | error reason => exact hpassed (Except.ok.inj hsame).symm
  | ok source =>
    obtain ⟨rs, hrs, hrecord⟩ := bind_eq_ok_iff.1 hsame
    obtain rfl := Except.ok.inj hrecord
    have hnames : (rs.map (·.1)).Nodup := by rwa [convertFields_keys hrs]
    -- Every field is found in the record again, where it holds what it was converted to.
    have hagain : convertFields dataSurroundings false (.entries rs) fields = .ok rs := by
      rw [convertFields_eq_mapM, mapM_eq_ok_iff, List.forall₂_iff_zip] at hrs ⊢
      refine ⟨hrs.1, fun {f e} hmem => ?_⟩
      obtain ⟨v, y, -, hy, rfl⟩ := convertField_eq_ok_iff.1 (hrs.2 hmem)
      obtain ⟨hf, he⟩ := List.of_mem_zip hmem
      have hget : FieldSource.get dataSurroundings f.1 (.entries rs) = .ok y := by
        rw [FieldSource.get, Entries.lookup_of_mem hnames he]
        rfl
      exact convertField_eq_ok_iff.2 ⟨y, y, hget, hfields f hf v y hy, rfl⟩
    have hentries : fieldSource dataSurroundings (.record rs) = .ok (.ok (.entries rs)) := rfl
    rw [IsFixed, convertAs, hentries, ok_bind]
    dsimp only
    rw [hagain]
    rfl

theorem isFixed_of_convertAs {t : TypeExpr} (hkeyed : t.Keyed) (hchoice : ¬ t.HasChoice)
    (h : convertAs dataSurroundings false d t = .ok r) : IsFixed t r := by
  induction t generalizing d r with
  | scalar name => exact isFixed_scalar h
  | array element ih =>
    cases hkeyed with
    | array helement =>
      exact isFixed_array (fun _ _ => ih helement fun hc => hchoice (.array hc)) h
  | union as => exact absurd (.union as) hchoice
  | generic name params => exact isFixed_generic h
  | record fields ih =>
    cases hkeyed with
    | record hkeys hfields =>
      refine isFixed_record hkeys (fun f hf _ _ => ?_) h
      exact ih f hf (hfields f hf) fun hc => hchoice (.record hf hc)

end Conversion

/-! ## Properties -/

namespace PlainWorld

open Possibly Conversion

variable {V : Type} {H : Handling V} {ad : AdapterDefinition (Held V)} {u w x : PlainWorld V}
  {name : String}

/-- The target and the open records have the same attributes and entries. -/
structure LooksLike (w x : PlainWorld V) : Prop where
  attributes : ∀ p, x.attributes.lookup p = w.attributes.lookup p
  entries : ∀ place key, x.entryOf? place key = w.entryOf? place key

theorem LooksLike.of_eq (hattributes : x.attributes = w.attributes) (hrecords : x.records = w.records) :
    LooksLike w x where
  attributes p := by rw [hattributes]
  entries place key := by rw [entryOf?, entryOf?, hrecords]

theorem LooksLike.trans (hu : LooksLike w u) (hx : LooksLike u x) : LooksLike w x where
  attributes p := (hx.attributes p).trans (hu.attributes p)
  entries place key := (hx.entries place key).trans (hu.entries place key)

/-- Setting an attribute to what it is. -/
theorem looksLike_put {y : Held V} (h : w.attributes.lookup name = some y) :
    LooksLike w (w.put name y) where
  attributes p := by
    by_cases hp : p = name
    · rw [hp, h]
      exact Entries.lookup_put_self _ _ _
    · exact Entries.lookup_put_of_ne _ _ hp
  entries _ _ := rfl

/-- Setting an entry to what it is. -/
theorem looksLike_putEntry {place : Nat} {key : String} {y : Held V} (hplace : place < w.records.length)
    (h : w.entryOf? place key = some y) : LooksLike w (w.putEntry place key y) where
  attributes _ := rfl
  entries other k := by
    by_cases hother : other = place
    · subst hother
      by_cases hk : k = key
      · rw [hk, entryOf?_putEntry_self hplace, h]
      · exact entryOf?_putEntry_of_ne hk y
    · unfold entryOf? putEntry
      rw [getD_modify_of_ne _ hother]

/-- Merging fields into a record that has their values already. -/
theorem looksLike_merge {place : Nat} {fields : List (String × Held V)}
    (hplace : place < w.records.length)
    (h : ∀ f ∈ fields, isNothing H f.2 = false → w.entryOf? place f.1 = some f.2) :
    LooksLike w (fields.foldl (merge H place) w) := by
  induction fields generalizing w with
  | nil => exact .of_eq rfl rfl
  | cons f fields ih =>
    obtain ⟨hf, hrest⟩ := List.forall_mem_cons.1 h
    have hone : LooksLike w (merge H place w f) := by
      unfold merge
      split
      · exact .of_eq rfl rfl
      · rename_i hnothing
        exact looksLike_putEntry hplace (hf (Bool.eq_false_iff.2 hnothing))
    refine hone.trans (ih ?_ fun g hg hnothing => ?_)
    · rw [(merge_isMerge place w f).size]
      exact hplace
    · rw [hone.entries]
      exact hrest g hg hnothing

/-- The target has the datum as an attribute of the type: as it is, or field by field in a record if
the datum is a record and the type is that of records. -/
inductive Presents (name : String) (t : TypeExpr) (r : Datum) (w : PlainWorld Datum) : Prop
  | whole (hclosed : ∀ fields es, t = .record fields → r ≠ .record es)
    (h : w.attributes.lookup name = some (.value r))
  | merged {fields : List (String × TypeExpr)} {es : List (String × Datum)} {place : Nat}
    (ht : t = .record fields) (hr : r = .record es)
    (h : w.attributes.lookup name = some (.record place)) (hplace : place < w.records.length)
    (hes : ∀ e ∈ es, e.2 ≠ .null → w.entryOf? place e.1 = some (.value e.2))

theorem Presents.of_eq {t : TypeExpr} {r : Datum} {w x : PlainWorld Datum}
    (hattributes : x.attributes = w.attributes) (hrecords : x.records = w.records)
    (h : Presents name t r w) : Presents name t r x := by
  cases h with
  | whole hclosed h => exact .whole hclosed (by rwa [hattributes])
  | merged ht hr h hplace hes =>
    refine .merged ht hr (by rwa [hattributes]) (by rwa [hrecords]) fun e he hnull => ?_
    rw [entryOf?, hrecords]
    exact hes e he hnull

theorem applyChange_ends_of_presents {traced : Bool} {ad : AdapterDefinition (Held Datum)}
    {info : PropertyInfo} (hinfo : IsPlain ad name info) {r : Datum} (hfixed : IsFixed info.type r)
    {w : PlainWorld Datum} (hvalue : w.value (.ofData traced) name = .value r)
    (hw : Presents name info.type r w) :
    ∃ x, Ends ((notingAdapter (.ofData traced) ad).applyChange .target name) w none x ∧
      LooksLike w x := by
  have hconverted : w.converted (.ofData traced) name info = .ok (.value r) := by
    have hconvert : (r.convert traced info.type).1 = .ok r := by
      rw [convert_eq_convertAs]
      exact hfixed
    unfold converted
    rw [hvalue]
    exact congrArg (Held.value <$> ·) hconvert
  cases hw with
  | whole hclosed h =>
    refine ⟨w.put name (.value r), fun e => ?_, looksLike_put h⟩
    rw [applyChange_iff hinfo, hconverted]
    dsimp only
    split
    · rename_i declared fields htype hfields
      cases r with
      | record es => exact absurd rfl (hclosed declared es htype)
      | _ => cases hfields
    · rfl
  | @merged declared es place ht hr h hplace hes =>
    subst hr
    have htarget : w.targetValue (.ofData traced) name = .record place := by
      rw [targetValue, h, Option.getD_some]
    refine ⟨(es.map fun f => (f.1, Held.value f.2)).foldl (merge (.ofData traced) place) w,
      fun e => ?_, looksLike_merge hplace fun f hf hnothing => ?_⟩
    · rw [applyChange_iff hinfo, hconverted, ht]
      exact Ends.bind (mergeInto_ends_of_record htarget _) (.pure none _) e
    · obtain ⟨e, he, rfl⟩ := List.mem_map.1 hf
      refine hes e he ?_
      intro hnull
      dsimp only at hnothing
      rw [hnull] at hnothing
      cases hnothing

/-- Writing to a property what the target presents of it already, and flushing that, changes nothing
about the target. -/
theorem rewrite_ends {traced : Bool} {ad : AdapterDefinition (Held Datum)} {info : PropertyInfo}
    (hinfo : IsPlain ad name info) (hstored : ad.metadata.computed.lookup name = none) {r : Datum}
    (hfixed : IsFixed info.type r) {w : PlainWorld Datum} (htarget : w.state.target = some .target)
    (hidle : w.changedNames = []) (hw : Presents name info.type r w) (limit : Nat) :
    ∃ x, Ends (do
      (Operation.setProperty name (.value r)).run (.ofData traced) ad
      (Operation.flush limit).run (.ofData traced) ad) w () x ∧ LooksLike w x := by
  let u := written (.ofData traced) w name (.value r)
  have hset := setProperty_ends (H := .ofData traced) htarget hstored (.value r)
  have hattributes : u.attributes = w.attributes :=
    written_keeps (·.attributes) (fun _ _ => rfl) (fun _ _ => rfl) w name _
  have hrecords : u.records = w.records :=
    written_keeps (·.records) (fun _ _ => rfl) (fun _ _ => rfl) w name _
  have hstill : u.state.target = some .target :=
    (written_keeps (·.state.target) (fun _ _ => rfl) (fun _ _ => rfl) w name _).trans htarget
  have hu : LooksLike w u := .of_eq hattributes hrecords
  by_cases hquiet : limit = 0 ∨ u.element.isPending = false
  · exact ⟨u, hset.bind (run_flush_ends_of_idle hquiet), hu⟩
  · obtain ⟨hlimit, hpending⟩ := not_or.1 hquiet
    obtain ⟨n, rfl⟩ := Nat.exists_eq_succ_of_ne_zero hlimit
    have hnames : u.changedNames = [name] := by
      have hchanged := changedNames_written_of_idle (H := .ofData traced) hidle name (.value r)
      split at hchanged
      · exact hchanged
      · refine absurd ?_ hpending
        rw [ElementState.isPending, List.map_eq_nil_iff.1 hchanged]
        rfl
    have hvalue : u.taken.value (.ofData traced) name = .value r := by
      have hwritten := written_value (H := .ofData traced) w name (.value r) name
      rwa [if_pos rfl] at hwritten
    have hpresents : Presents name info.type r u.taken := hw.of_eq hattributes hrecords
    obtain ⟨y, happly, hy⟩ := applyChange_ends_of_presents hinfo hfixed hvalue hpresents
    refine ⟨_, hset.bind (flush_ends_of_change hstill hnames happly n), ?_⟩
    have htaken : LooksLike u u.taken := .of_eq rfl rfl
    exact hu.trans (htaken.trans (hy.trans (.of_eq rfl rfl)))

end PlainWorld

namespace Conversion

open Possibly PlainWorld

/-- What a value is converted to by a type without choices is converted to itself. So a property of
an adapter that is written once more with what the target presents of it already leaves the target
as it is. -/
theorem convert_again {t : TypeExpr} (hkeyed : t.Keyed) (hchoice : ¬ t.HasChoice) {traced : Bool}
    {v r : Datum} (h : (v.convert traced t).1 = .ok r) :
    (r.convert traced t).1 = .ok r ∧
    ∀ {ad : AdapterDefinition (Held Datum)} {name : String} {info : PropertyInfo},
      IsPlain ad name info → ad.metadata.computed.lookup name = none → info.type = t →
      ∀ {w : PlainWorld Datum}, w.state.target = some .target → w.changedNames = [] →
        Presents name t r w → ∀ limit : Nat,
          ∃ x, Ends (do
            (Operation.setProperty name (.value r)).run (.ofData traced) ad
            (Operation.flush limit).run (.ofData traced) ad) w () x ∧ LooksLike w x := by
  rw [convert_eq_convertAs] at h
  have hfixed : IsFixed t r := isFixed_of_convertAs hkeyed hchoice h
  refine ⟨?_, fun hinfo hstored htype _ htarget hidle hw limit => ?_⟩
  · rw [convert_eq_convertAs]
    exact hfixed
  · subst htype
    exact rewrite_ends hinfo hstored hfixed htarget hidle hw limit

/-- A list that was converted as far as it can be is converted to itself, and a text that the target
has is left as it is. -/
theorem convert_again_flags_and_note :
    let flags : Datum := .list [.bool true, .text "maybe"]
    let t := TypeExpr.array (.scalar "boolean")
    ((Datum.list [.int 1, .text "maybe"]).convert false t).1 = .ok flags ∧
      (flags.convert false t).1 = .ok flags ∧
      ∃ x, Ends (do
        (Operation.setProperty "note" (.value (.text "1"))).run (.ofData false) noteDefinition
        (Operation.flush 16).run (.ofData false) noteDefinition) oneWorld () x ∧
        LooksLike oneWorld x := by
  intro flags t
  have hitem (d : Datum) (hd : d ≠ .null) : convertAs dataSurroundings false d (.scalar "boolean") =
      orDegrade dataSurroundings false d (.scalar "boolean") FaultKind.isValue .coercion
        (coerce dataSurroundings .boolean d) := convertAs_primitive hd rfl
  have hflags : ((Datum.list [.int 1, .text "maybe"]).convert false t).1 = .ok flags := by
    rw [convert_eq_convertAs]
    refine convertAs_array rfl nofun rfl (mapM_eq_ok_iff.2 (.cons ?_ (.cons ?_ .nil)))
    · exact hitem (.int 1) nofun
    · exact hitem (.text "maybe") nofun
  have hnote : ((Datum.int 1).convert false (.scalar "string")).1 = .ok (.text "1") :=
    convert_string nofun nofun (by decide +kernel)
  have hpresents : Presents "note" (.scalar "string") (.text "1") oneWorld := .whole nofun rfl
  have hchoice (name : String) : ¬ (TypeExpr.scalar name).HasChoice := nofun
  refine ⟨hflags, (convert_again (.array (.scalar _)) ?_ hflags).1, ?_⟩
  · rintro (_ | h)
    exact hchoice _ h
  · exact (convert_again (.scalar _) (hchoice _) hnote).2 note_isWhole.toIsPlain rfl rfl rfl rfl
      hpresents 16

end Conversion

end SceneBridge
