import SceneBridge.Proofs.ConversionSteps
import SceneBridge.Proofs.LeftOut
import SceneBridge.Proofs.WholeBatch

/-!
# What bad texts leave behind

Texts are written one after another to a property whose type is a record of numbers, truth values
and texts, each with a flush after it. The notation of a record is put into the record of the
target, field by field. A text that is none takes the place of that record, and from then on there
is nothing left that fields could be put into. Nobody has subscribed to the adapter.
-/

namespace SceneBridge.PlainWorld

open Possibly Conversion

/-! ## Fields of a simple type -/

/-- The type is that of numbers, of truth values or of texts. -/
def IsSimpleType (t : TypeExpr) : Prop :=
  ∃ name p, t = .scalar name ∧ primitive? name = some p ∧ p ≠ .float ∧ p ≠ .int

/-- A value is converted to a simple type whatever it is, and is not lost on the way. -/
theorem convertAs_simple {t : TypeExpr} (ht : IsSimpleType t) (d : Datum) :
    ∃ r, convertAs dataSurroundings false d t = .ok r ∧ (r = .null ↔ d = .null) := by
  obtain ⟨name, p, rfl, hname, hfloat, hint⟩ := ht
  by_cases hd : d = .null
  · subst hd
    refine ⟨.null, ?_, by simp⟩
    rw [convertAs]
    rfl
  have hconvert := convertAs_primitive hd hname
  cases hresult : convertAs dataSurroundings false d (.scalar name) with
  | error f =>
    -- Only other primitives and constructors have faults that are not caught.
    exfalso
    rw [hconvert, orDegrade_eq_error_iff, coerce_eq_error_iff] at hresult
    rcases hresult with ⟨h, -⟩ | ⟨h, -⟩
    · exact hfloat h
    · exact hint h
  | ok r =>
    refine ⟨r, rfl, fun hr => ?_, fun h => absurd h hd⟩
    rcases orDegrade_eq_ok (hconvert.symm.trans hresult) with rfl | hcoerce
    · exact hr
    · exact absurd hr (coerce_ne_null hcoerce)

/-! ## Records of simple fields -/

variable {fields : List (String × TypeExpr)} {es : List (String × Datum)}

/-- What the text of a record holds for a field; nothing if it does not mention it. -/
def given (es : List (String × Datum)) (key : String) : Datum :=
  (es.lookup key).getD .null

/-- The entries are those of the declared fields, each with what the text holds for it. -/
structure Renders (fields : List (String × TypeExpr)) (es rs : List (String × Datum)) : Prop where
  keys : rs.map (·.1) = fields.map (·.1)
  made : ∀ key t, (key, t) ∈ fields →
    ∃ r, convertAs dataSurroundings false (given es key) t = .ok r ∧ (key, r) ∈ rs
  null_iff : ∀ entry ∈ rs, entry.2 = .null ↔ given es entry.1 = .null

theorem convertFields_renders (hsimple : ∀ field ∈ fields, IsSimpleType field.2)
    (es : List (String × Datum)) :
    ∃ rs, convertFields dataSurroundings false (.data es) fields = .ok rs ∧ Renders fields es rs := by
  induction fields with
  | nil => exact ⟨[], rfl, rfl, nofun, nofun⟩
  | cons field fields ih =>
    obtain ⟨name, t⟩ := field
    obtain ⟨ht, hrest⟩ := List.forall_mem_cons.1 hsimple
    obtain ⟨r, hr, hnull⟩ := convertAs_simple ht (given es name)
    obtain ⟨rs, hrs, hrenders⟩ := ih hrest
    have hget : FieldSource.get dataSurroundings name (.data es) = .ok (given es name) := rfl
    refine ⟨(name, r) :: rs, ?_, ?_, fun key t' hfield => ?_, ?_⟩
    · rw [convertFields, hget, ok_bind, hr, ok_bind, hrs]
      rfl
    · rw [List.map_cons, List.map_cons, hrenders.keys]
    · rcases List.mem_cons.1 hfield with heq | hfield
      · obtain ⟨rfl, rfl⟩ := Prod.mk.inj heq
        exact ⟨r, hr, List.mem_cons_self⟩
      · obtain ⟨y, hy, hmem⟩ := hrenders.made key t' hfield
        exact ⟨y, hy, List.mem_cons_of_mem _ hmem⟩
    · exact List.forall_mem_cons.2 ⟨hnull, hrenders.null_iff⟩

/-- The text holds a value for a field that is declared. -/
def Mentions (fields : List (String × TypeExpr)) (es : List (String × Datum)) : Prop :=
  ∃ field ∈ fields, given es field.1 ≠ .null

theorem isNull_iff {r : Datum} : Handling.ofData.isNull r = true ↔ r = .null := by
  cases r with
  | null => exact iff_of_true rfl rfl
  | _ => exact iff_of_false nofun nofun

theorem Renders.isNothing_iff {rs : List (String × Datum)} (h : Renders fields es rs) (traced : Bool)
    {field : String × Held Datum} (hfield : field ∈ held rs) :
    isNothing (.ofData traced) field.2 = true ↔ given es field.1 = .null := by
  obtain ⟨r, hr, hvalue⟩ := mem_held.1 hfield
  rw [hvalue, ← h.null_iff _ hr]
  exact isNull_iff

/-- A declared field has a value if and only if one of the entries has. -/
theorem Renders.mentions_iff {rs : List (String × Datum)} (h : Renders fields es rs) (traced : Bool) :
    Mentions fields es ↔ ∃ field ∈ held rs, isNothing (.ofData traced) field.2 = false := by
  constructor
  · rintro ⟨⟨key, t⟩, hfield, hgiven⟩
    obtain ⟨r, -, hr⟩ := h.made key t hfield
    have hmem : (key, .value r) ∈ held rs := mem_held.2 ⟨r, hr, rfl⟩
    refine ⟨(key, .value r), hmem, ?_⟩
    rw [← Bool.not_eq_true, h.isNothing_iff traced hmem]
    exact hgiven
  · rintro ⟨field, hfield, hvalue⟩
    have hkey : field.1 ∈ fields.map (·.1) := by
      rw [← h.keys, ← held_keys]
      exact List.mem_map_of_mem hfield
    obtain ⟨declared, hdeclared, hname⟩ := List.mem_map.1 hkey
    refine ⟨declared, hdeclared, ?_⟩
    rw [hname, Ne, ← h.isNothing_iff traced hfield, Bool.not_eq_true]
    exact hvalue

/-! ## Texts -/

/-- The text is not the notation of a record, and passes through a conversion to a record. -/
def isStray (s : String) : Bool :=
  match Json.read s.toList with
  | .ok (.record _) | .error .longInteger => false
  | _ => true

/-- The last of the texts that is not the notation of a record. -/
def lastStray? (texts : List String) : Option String :=
  (texts.filter isStray).getLast?

theorem lastStray?_append (texts : List String) (s : String) :
    lastStray? (texts ++ [s]) = if isStray s then some s else lastStray? texts := by
  unfold lastStray?
  cases hs : isStray s with
  | true => simp [hs]
  | false => simp [hs]

theorem lastStray?_of_getLast? {texts : List String} {s : String} (h : texts.getLast? = some s)
    (hs : isStray s = true) : lastStray? texts = some s := by
  obtain ⟨before, rfl⟩ := List.getLast?_eq_some_iff.1 h
  rw [lastStray?_append, if_pos hs]

theorem lastStray?_eq_none {texts : List String} :
    lastStray? texts = none ↔ ∀ s ∈ texts, isStray s = false := by
  simp [lastStray?]

theorem clean_of_record {s : String} (hread : Json.read s.toList = .ok (.record es)) :
    isStray s = false := by
  unfold isStray
  rw [hread]

theorem fieldSource_stray {s : String} (hs : isStray s = true) :
    ∃ reason, fieldSource dataSurroundings (.text s) = .ok (.error reason) := by
  unfold isStray at hs
  rw [fieldSource, see_bind]
  dsimp only
  cases hread : Json.read s.toList with
  | error complaint =>
    cases complaint with
    | longInteger => simp [hread] at hs
    | at_ c i => exact ⟨_, rfl⟩
  | ok d =>
    cases d with
    | record es => simp [hread] at hs
    | _ => exact ⟨_, rfl⟩

theorem convertAs_stray {s : String} (hs : isStray s = true) (fields : List (String × TypeExpr)) :
    convertAs dataSurroundings false (.text s) (.record fields) = .ok (.text s) := by
  obtain ⟨reason, hsource⟩ := fieldSource_stray hs
  rw [convertAs, hsource]
  rfl

theorem convertAs_long {s : String} (hs : Json.read s.toList = .error .longInteger)
    (fields : List (String × TypeExpr)) :
    convertAs dataSurroundings false (.text s) (.record fields) = .error .longInteger := by
  have hsource : fieldSource dataSurroundings (.text s) = .error .longInteger := by
    rw [fieldSource, see_bind]
    dsimp only
    rw [hs]
    rfl
  rw [convertAs, hsource]
  rfl

/-- A text stays as it is, holds a record, or holds an integer that is too long. -/
theorem text_cases (s : String) :
    isStray s = true ∨ isStray s = false ∧
      ((∃ es, Json.read s.toList = .ok (.record es)) ∨ Json.read s.toList = .error .longInteger) := by
  unfold isStray
  split
  · rename_i es hread
    exact .inr ⟨rfl, .inl ⟨es, hread⟩⟩
  · rename_i hread
    exact .inr ⟨rfl, .inr hread⟩
  · exact .inl rfl

/-! ## One change -/

section Change

variable {V : Type} {H : Handling V} {d : AdapterDefinition (Held V)} {u w x : PlainWorld V}
  {p : String} {fault : Fault}

/-- A flush of one change fails as the writing of it does. -/
theorem flush_breaks_of_change (htarget : u.state.target = some .target) (hnames : u.changedNames = [p])
    (h : Breaks ((notingAdapter H d).applyChange .target p) u.taken fault x) (limit : Nat) :
    Breaks ((Operation.flush (limit + 1)).run H d) u fault x := by
  have hwrites : Breaks ([p].filterMapM ((notingAdapter H d).applyChange .target)) u.taken fault x := by
    rw [List.filterMapM_cons]
    exact h.bind
  intro e
  rw [flush_iff htarget (isPending_of_changedNames hnames), hnames]
  constructor
  · rintro ⟨inner, y, hrun, rfl⟩
    obtain ⟨rfl, rfl⟩ := Prod.mk.inj ((hwrites _).1 hrun)
    rfl
  · rintro rfl
    exact ⟨.error fault, x, (hwrites _).2 rfl, rfl⟩

/-! ## A record into what is none -/

/-- The step of a merge for one field, into what is no open record. -/
def closedStep (H : Handling V) (field : String × Held V) : Possibly (PlainWorld V) PUnit :=
  if isNothing H field.2 then pure ⟨⟩ else refuse field.1

theorem mergeInto_of_closed {y : V} (hcurrent : w.targetValue H p = .value y)
    (hsome : H.isNothing y = false) (fields : List (String × Held V))
    {e : Except Fault Unit × PlainWorld V} :
    (notingAdapter H d).mergeInto .target p fields w e ↔ fields.forM (closedStep H) w e := by
  have hpeek : Ends ((notingAdapter H d).peek .target p) w (.value y) w := by
    rw [← hcurrent]
    exact .read _ w
  have hstep : (fun field : String × Held V =>
      if (notingAdapter H d).isNothing field.2 then pure ⟨⟩
      else do
        if ← (notingAdapter H d).isOpenRecord (.value y) then
          (notingAdapter H d).setEntry (.value y) field.1 field.2
        else (notingAdapter H d).setMember (.value y) field.1 field.2) = closedStep H := by
    funext field
    have hrest : (do
        if ← (notingAdapter H d).isOpenRecord (.value y) then
          (notingAdapter H d).setEntry (.value y) field.1 field.2
        else (notingAdapter H d).setMember (.value y) field.1 field.2) = refuse field.1 :=
      pure_bind false _
    rw [hrest]
    rfl
  have hnot : ¬ (notingAdapter H d).isNothing (.value y) = true := by
    change ¬ H.isNothing y = true
    simp [hsome]
  unfold Adapter.mergeInto
  rw [hpeek.bind_iff, if_neg hnot, ← hstep]

/-- Fields without a value can be put into anything. -/
theorem mergeInto_ends_of_closed {y : V} (hcurrent : w.targetValue H p = .value y)
    (hsome : H.isNothing y = false) {fields : List (String × Held V)}
    (hfields : ∀ field ∈ fields, isNothing H field.2 = true) :
    Ends ((notingAdapter H d).mergeInto .target p fields) w ⟨⟩ w := by
  have hall : Ends (fields.forM (closedStep H)) w ⟨⟩ w := by
    induction fields with
    | nil => exact .pure _ w
    | cons field fields ih =>
      obtain ⟨hfield, hrest⟩ := List.forall_mem_cons.1 hfields
      have hfirst : Ends (closedStep H field) w ⟨⟩ w := .ite_of_pos hfield (.pure _ w)
      exact hfirst.bind (ih hrest)
  exact fun e => (mergeInto_of_closed hcurrent hsome fields).trans (hall e)

/-- A field that has a value cannot be put into what is no record. -/
theorem mergeInto_breaks_of_closed {y : V} (hcurrent : w.targetValue H p = .value y)
    (hsome : H.isNothing y = false) {fields : List (String × Held V)}
    (hfields : ∃ field ∈ fields, isNothing H field.2 = false) :
    ∃ fault, fault.kind = .attribute ∧
      Breaks ((notingAdapter H d).mergeInto .target p fields) w fault w := by
  have hall : ∃ fault, fault.kind = .attribute ∧ Breaks (fields.forM (closedStep H)) w fault w := by
    induction fields with
    | nil =>
      obtain ⟨field, hfield, -⟩ := hfields
      cases hfield
    | cons field fields ih =>
      cases hfield : isNothing H field.2 with
      | false =>
        -- This is the first field with a value.
        have hfirst : Breaks (closedStep H field) w
            (.basic .attribute ("no attribute " ++ field.1)) w := by
          unfold closedStep
          rw [if_neg (by simp [hfield])]
          exact .throw _ w
        exact ⟨_, rfl, hfirst.bind⟩
      | true =>
        obtain ⟨other, hother, hvalue⟩ := hfields
        have hmem : other ∈ fields := by
          refine (List.mem_cons.1 hother).resolve_left ?_
          rintro rfl
          cases hfield.symm.trans hvalue
        obtain ⟨fault, hkind, hbreaks⟩ := ih ⟨other, hmem, hvalue⟩
        have hfirst : Ends (closedStep H field) w ⟨⟩ w := .ite_of_pos hfield (.pure _ w)
        exact ⟨fault, hkind, hfirst.bind_breaks hbreaks⟩
  obtain ⟨fault, hkind, hbreaks⟩ := hall
  exact ⟨fault, hkind, fun e => (mergeInto_of_closed hcurrent hsome fields).trans (hbreaks e)⟩

end Change

/-! ## Histories of texts -/

/-- The property is stored, and its type is a record of simple fields. -/
structure IsRecordProperty (d : AdapterDefinition (Held Datum)) (p : String)
    (fields : List (String × TypeExpr)) : Prop where
  plain : ∃ info, IsPlain d p info ∧ info.type = .record fields
  stored : d.metadata.computed.lookup p = none
  simple : ∀ field ∈ fields, IsSimpleType field.2
  keys : (fields.map (·.1)).Nodup

/-- A text is set as an attribute, and flushed. -/
def trial (traced : Bool) (d : AdapterDefinition (Held Datum)) (attr : String) (limit : Nat)
    (s : String) : Possibly (PlainWorld Datum) Unit := do
  (Operation.setAttribute attr s).run (.ofData traced) d
  (Operation.flush (limit + 1)).run (.ofData traced) d

/-- The text, if there is one, and the record at the place otherwise. -/
def textOr (place : Nat) : Option String → Held Datum
  | some s => .value (.text s)
  | none => .record place

/-- What an adapter and its target are after some texts were set and flushed: the adapter keeps the
last of them, and the target the last one that is not the notation of a record. -/
structure After (traced : Bool) (attr p : String) (place : Nat) (texts : List String)
    (w : PlainWorld Datum) : Prop where
  target : w.state.target = some .target
  idle : w.changedNames = []
  named : w.element.propertyFor? attr = some p
  value : w.value (.ofData traced) p = textOr place texts.getLast?
  shown : w.attributes.lookup p = some (textOr place (lastStray? texts))
  known : place < w.records.length

/-- The text was set as well and is a change, but was not flushed yet. -/
structure Asked (traced : Bool) (attr p : String) (place : Nat) (texts : List String) (s : String)
    (w : PlainWorld Datum) : Prop where
  target : w.state.target = some .target
  changed : w.changedNames = [p]
  named : w.element.propertyFor? attr = some p
  value : w.value (.ofData traced) p = .value (.text s)
  shown : w.attributes.lookup p = some (textOr place (lastStray? texts))
  known : place < w.records.length

variable {traced : Bool} {d : AdapterDefinition (Held Datum)} {attr p : String} {place : Nat}
  {texts : List String} {s : String} {u v w x : PlainWorld Datum}

theorem differs_text_iff (rs : Records Datum) (last : Option String) :
    (Handling.ofData traced).differs rs (textOr place last) (.value (.text s)) = true ↔
      last ≠ some s := by
  cases last with
  | none => exact iff_of_true rfl nofun
  | some t =>
    have htexts : (Handling.ofData traced).differs rs (textOr place (some t)) (.value (.text s)) =
        !(t == s) := rfl
    rw [htexts]
    simp

/-- The attribute is set: the text is kept, and is a change unless it was kept before. -/
theorem setAttribute_cases (hp : IsRecordProperty d p fields)
    (h : After traced attr p place texts v) (s : String) :
    ∃ u, Ends ((Operation.setAttribute attr s).run (.ofData traced) d) v () u ∧
      if texts.getLast? = some s then After traced attr p place (texts ++ [s]) u
      else Asked traced attr p place texts s u := by
  let op : Operation Datum := .setAttribute attr s
  let H := Handling.ofData traced
  let u := written H (op.noted v) p (.value (.text s))
  have hwrite : op.write? H v = some (p, .value (.text s)) := by
    simp only [op, Operation.write?, h.named]
    rfl
  have hends : Ends (op.run H d) v () u := by
    have hstored (q : String) (y : Held Datum) (hq : op.write? H v = some (q, y)) :
        d.metadata.computed.lookup q = none := by
      rw [hwrite] at hq
      cases hq
      exact hp.stored
    have hset := write_ends h.target rfl hstored
    rw [hwrite] at hset
    exact hset
  have hleaves : LeavesTarget v u := (noted_leavesTarget v op).trans (written_leavesTarget _ _ _)
  have hvalue : u.value H p = .value (.text s) := by
    rw [written_value, if_pos rfl]
  have hnamed : u.element.propertyFor? attr = some p := by
    rw [← h.named, ElementState.propertyFor?, hleaves.declared]
    rfl
  have hknown : place < u.records.length := by
    rw [hleaves.records]
    exact h.known
  have hidle : (op.noted v).changedNames = [] := (noted_changedNames v op).trans h.idle
  have hchanged : u.changedNames = if texts.getLast? = some s then [] else [p] := by
    rw [changedNames_written_of_idle hidle, noted_value, h.value]
    by_cases hlast : texts.getLast? = some s
    · rw [if_pos hlast, if_neg fun hdiffers => (differs_text_iff _ _).1 hdiffers hlast]
    · rw [if_neg hlast, if_pos ((differs_text_iff _ _).2 hlast)]
  refine ⟨u, hends, ?_⟩
  split
  · rename_i hlast
    rw [if_pos hlast] at hchanged
    refine ⟨hleaves.target.trans h.target, hchanged, hnamed, ?_, ?_, hknown⟩
    · rw [hvalue, List.getLast?_concat]
      rfl
    · rw [hleaves.attributes, h.shown, lastStray?_append]
      split
      · rename_i hs
        rw [lastStray?_of_getLast? hlast hs]
      · rfl
  · rename_i hlast
    rw [if_neg hlast] at hchanged
    refine ⟨hleaves.target.trans h.target, hchanged, hnamed, hvalue, ?_, hknown⟩
    rw [hleaves.attributes, h.shown]

/-- The change was written, with or without a failure. -/
theorem Asked.after (h : Asked traced attr p place texts s u) (hkept : KeepsAdapter u.taken x)
    (hshown : x.attributes.lookup p = some (textOr place (lastStray? (texts ++ [s]))))
    (hknown : place < x.records.length) : After traced attr p place (texts ++ [s]) x where
  target := by
    rw [hkept.2]
    exact h.target
  idle := by
    rw [changedNames, hkept.1]
    rfl
  named := by
    rw [hkept.1]
    exact h.named
  value := by
    rw [PlainWorld.value, hkept.1, List.getLast?_concat]
    exact h.value
  shown := hshown
  known := hknown

theorem After.finished (h : After traced attr p place texts x) :
    After traced attr p place texts (finished (updated x)) :=
  ⟨h.target, h.idle, h.named, h.value, h.shown, h.known⟩

/-! ## One text after others -/

/-- The fields for which the text holds a value have it in the record at the place. -/
def Sets (fields : List (String × TypeExpr)) (es : List (String × Datum)) (place : Nat)
    (x : PlainWorld Datum) : Prop :=
  ∀ key t, (key, t) ∈ fields → given es key ≠ .null →
    ∃ r, convertAs dataSurroundings false (given es key) t = .ok r ∧
      x.entryOf? place key = some (.value r)

section Asked

variable (hp : IsRecordProperty d p fields) (h : Asked traced attr p place texts s u)

include h

theorem Asked.converted_eq {info : PropertyInfo} (htype : info.type = .record fields) :
    u.taken.converted (.ofData traced) p info =
      Held.value <$> convertAs dataSurroundings false (.text s) (.record fields) := by
  have hvalue : u.taken.value (.ofData traced) p = .value (.text s) := h.value
  rw [converted, hvalue, htype, (ofData_converts traced).convert]

theorem Asked.current :
    u.taken.targetValue (.ofData traced) p = textOr place (lastStray? texts) := by
  have hshown : u.taken.attributes.lookup p = _ := h.shown
  rw [targetValue, hshown]
  rfl

include hp

theorem Asked.stray_ends (hs : isStray s = true) (limit : Nat) :
    ∃ x, Ends ((Operation.flush (limit + 1)).run (.ofData traced) d) u () x ∧
      After traced attr p place (texts ++ [s]) x := by
  obtain ⟨info, hinfo, htype⟩ := hp.plain
  have hc : u.taken.converted (.ofData traced) p info = .ok (.value (.text s)) := by
    rw [h.converted_eq htype, convertAs_stray hs]
    rfl
  have hwhole : mergedFields? (.ofData traced) u.taken info.type (.value (.text s)) = none := by
    rw [htype]
    rfl
  have happly := applyChange_ends_of_whole hinfo hc hwhole
  refine ⟨_, flush_ends_of_change h.target h.changed happly limit, After.finished ?_⟩
  refine h.after ⟨rfl, rfl⟩ ?_ h.known
  rw [lastStray?_append, if_pos hs]
  exact Entries.lookup_put_self _ _ _

theorem Asked.long_breaks (hs : Json.read s.toList = .error .longInteger) (limit : Nat) :
    ∃ fault x, Breaks ((Operation.flush (limit + 1)).run (.ofData traced) d) u fault x ∧
      After traced attr p place (texts ++ [s]) x := by
  obtain ⟨info, hinfo, htype⟩ := hp.plain
  have hc : u.taken.converted (.ofData traced) p info = .error .longInteger := by
    rw [h.converted_eq htype, convertAs_long hs]
    rfl
  have happly : Breaks ((notingAdapter (.ofData traced) d).applyChange .target p) u.taken
      .longInteger u.taken := by
    intro e
    rw [applyChange_iff hinfo, hc]
    exact Iff.rfl
  have hclean : isStray s = false := by
    unfold isStray
    rw [hs]
  refine ⟨_, _, flush_breaks_of_change h.target h.changed happly limit, ?_⟩
  refine h.after ⟨rfl, rfl⟩ ?_ h.known
  rw [lastStray?_append, hclean]
  exact h.shown

/-- What the notation of a record is converted to. -/
theorem Asked.record_converted (hread : Json.read s.toList = .ok (.record es)) :
    ∃ info rs, IsPlain d p info ∧
      u.taken.converted (.ofData traced) p info = .ok (.value (.record rs)) ∧
      mergedFields? (.ofData traced) u.taken info.type (.value (.record rs)) = some (held rs) ∧
      Renders fields es rs := by
  obtain ⟨info, hinfo, htype⟩ := hp.plain
  obtain ⟨rs, hrs, hrenders⟩ := convertFields_renders hp.simple es
  refine ⟨info, rs, hinfo, ?_, ?_, hrenders⟩
  · have hsee : dataSurroundings.see (.text s) = .ok (.text s) := rfl
    rw [h.converted_eq htype, convertAs_record_text hsee hread, hrs]
    rfl
  · rw [htype]
    rfl

theorem Asked.record_sets (hread : Json.read s.toList = .ok (.record es))
    (hnone : lastStray? texts = none) (limit : Nat) :
    ∃ x, Ends ((Operation.flush (limit + 1)).run (.ofData traced) d) u () x ∧
      After traced attr p place (texts ++ [s]) x ∧ Sets fields es place x := by
  obtain ⟨info, rs, hinfo, hc, hfields, hrenders⟩ := h.record_converted hp hread
  have hcurrent : u.taken.targetValue (.ofData traced) p = .record place := by
    rw [h.current, hnone]
    rfl
  have hknown : place < u.taken.records.length := h.known
  have happly := applyChange_ends_of_fields hinfo hc hfields
    (mergeInto_ends_of_record hcurrent (held rs))
  have hmerge := foldl_merge_isMerge (H := .ofData traced) place u.taken (held rs)
  refine ⟨_, flush_ends_of_change h.target h.changed happly limit, After.finished ?_, ?_⟩
  · have hkept : KeepsAdapter u.taken _ := applyChange_keepsAdapter _ _ _ _ _ ((happly _).2 rfl)
    refine h.after hkept ?_ ?_
    · rw [hmerge.attributes, lastStray?_append, clean_of_record hread]
      exact h.shown
    · rw [hmerge.size]
      exact hknown
  · intro key t hfield hgiven
    obtain ⟨r, hr, hmem⟩ := hrenders.made key t hfield
    have hheld : (key, .value r) ∈ held rs := mem_held.2 ⟨r, hmem, rfl⟩
    have hsome : isNothing (.ofData traced) (.value r) = false := by
      rw [← Bool.not_eq_true, hrenders.isNothing_iff traced hheld]
      exact hgiven
    have hentry := entryOf?_foldl_merge_of_mem hknown (by
      rw [held_keys, hrenders.keys]
      exact hp.keys) hheld hsome
    exact ⟨r, hr, hentry⟩

/-- Where a text has taken the place of the record, a flush fails if there is a field with a value, and
changes nothing. -/
theorem Asked.record_breaks (hread : Json.read s.toList = .ok (.record es)) {g : String}
    (hg : lastStray? texts = some g) (hmentions : Mentions fields es) (limit : Nat) :
    ∃ fault x, fault.kind = .attribute ∧
      Breaks ((Operation.flush (limit + 1)).run (.ofData traced) d) u fault x ∧
      After traced attr p place (texts ++ [s]) x := by
  obtain ⟨info, rs, hinfo, hc, hfields, hrenders⟩ := h.record_converted hp hread
  have hcurrent : u.taken.targetValue (.ofData traced) p = .value (.text g) := by
    rw [h.current, hg]
    rfl
  obtain ⟨fault, hkind, hmerge⟩ := mergeInto_breaks_of_closed (d := d) hcurrent rfl
    ((hrenders.mentions_iff traced).1 hmentions)
  have happly := applyChange_breaks_of_fields hinfo hc hfields hmerge
  refine ⟨fault, _, hkind, flush_breaks_of_change h.target h.changed happly limit, ?_⟩
  refine h.after ⟨rfl, rfl⟩ ?_ h.known
  rw [lastStray?_append, clean_of_record hread]
  exact h.shown

theorem Asked.record_ends (hread : Json.read s.toList = .ok (.record es)) {g : String}
    (hg : lastStray? texts = some g) (hmentions : ¬ Mentions fields es) (limit : Nat) :
    ∃ x, Ends ((Operation.flush (limit + 1)).run (.ofData traced) d) u () x ∧
      After traced attr p place (texts ++ [s]) x := by
  obtain ⟨info, rs, hinfo, hc, hfields, hrenders⟩ := h.record_converted hp hread
  have hcurrent : u.taken.targetValue (.ofData traced) p = .value (.text g) := by
    rw [h.current, hg]
    rfl
  have hnothing : ∀ field ∈ held rs, isNothing (.ofData traced) field.2 = true := by
    intro field hfield
    rw [← Bool.not_eq_false]
    exact fun hvalue => hmentions ((hrenders.mentions_iff traced).2 ⟨field, hfield, hvalue⟩)
  have happly := applyChange_ends_of_fields hinfo hc hfields
    (mergeInto_ends_of_closed hcurrent rfl hnothing)
  refine ⟨_, flush_ends_of_change h.target h.changed happly limit, After.finished ?_⟩
  refine h.after ⟨rfl, rfl⟩ ?_ h.known
  rw [lastStray?_append, clean_of_record hread]
  exact h.shown

end Asked

/-! ## Histories -/

theorem trial_iff_of_ends (hset : Ends ((Operation.setAttribute attr s).run (.ofData traced) d) v () u)
    (limit : Nat) {e : Except Fault Unit × PlainWorld Datum} :
    trial traced d attr limit s v e ↔ (Operation.flush (limit + 1)).run (.ofData traced) d u e :=
  hset.bind_iff

/-- A text that is set and flushed comes to one end, after which it is the last one. -/
theorem After.trial (hp : IsRecordProperty d p fields) (h : After traced attr p place texts v)
    (s : String) (limit : Nat) :
    ∃ outcome x, (∀ e, trial traced d attr limit s v e ↔ e = (outcome, x)) ∧
      After traced attr p place (texts ++ [s]) x := by
  obtain ⟨u, hset, hu⟩ := setAttribute_cases hp h s
  split at hu
  · have hidle : u.element.isPending = false := by
      simpa [changedNames, ElementState.isPending] using hu.idle
    refine ⟨.ok (), u, fun e => ?_, hu⟩
    rw [trial_iff_of_ends hset]
    exact run_flush_ends_of_idle (.inr hidle) e
  · have hends {x : PlainWorld Datum}
        (hflush : Ends ((Operation.flush (limit + 1)).run (.ofData traced) d) u () x)
        (e : Except Fault Unit × PlainWorld Datum) :
        PlainWorld.trial traced d attr limit s v e ↔ e = (.ok (), x) := by
      rw [trial_iff_of_ends hset]
      exact hflush e
    have hbreaks {fault : Fault} {x : PlainWorld Datum}
        (hflush : Breaks ((Operation.flush (limit + 1)).run (.ofData traced) d) u fault x)
        (e : Except Fault Unit × PlainWorld Datum) :
        PlainWorld.trial traced d attr limit s v e ↔ e = (.error fault, x) := by
      rw [trial_iff_of_ends hset]
      exact hflush e
    rcases text_cases s with hstray | ⟨-, ⟨es, hread⟩ | hlong⟩
    · obtain ⟨x, hflush, hx⟩ := hu.stray_ends hp hstray limit
      exact ⟨_, x, hends hflush, hx⟩
    · cases hg : lastStray? texts with
      | none =>
        obtain ⟨x, hflush, hx, -⟩ := hu.record_sets hp hread hg limit
        exact ⟨_, x, hends hflush, hx⟩
      | some g =>
        by_cases hmentions : Mentions fields es
        · obtain ⟨fault, x, -, hflush, hx⟩ := hu.record_breaks hp hread hg hmentions limit
          exact ⟨_, x, hbreaks hflush, hx⟩
        · obtain ⟨x, hflush, hx⟩ := hu.record_ends hp hread hg hmentions limit
          exact ⟨_, x, hends hflush, hx⟩
    · obtain ⟨fault, x, hflush, hx⟩ := hu.long_breaks hp hlong limit
      exact ⟨_, x, hbreaks hflush, hx⟩

/-- Texts are set and flushed one after another in one way only. -/
theorem After.runs (hp : IsRecordProperty d p fields) {before : List String}
    (h : After traced attr p place before w) (texts : List String) (limit : Nat) :
    ∃ v, (∀ u, Runs (PlainWorld.trial traced d attr limit) texts w u ↔ u = v) ∧
      After traced attr p place (before ++ texts) v := by
  induction texts generalizing before w with
  | nil =>
    refine ⟨w, fun u => ⟨fun hrun => ?_, ?_⟩, by simpa using h⟩
    · cases hrun
      rfl
    · rintro rfl
      exact .nil u
  | cons s texts ih =>
    obtain ⟨outcome, t, htrial, ht⟩ := h.trial hp s limit
    obtain ⟨v, hruns, hv⟩ := ih ht
    refine ⟨v, fun u => ⟨fun hrun => ?_, ?_⟩, by simpa using hv⟩
    · cases hrun with
      | cons hfirst hrest =>
        obtain ⟨rfl, rfl⟩ := Prod.mk.inj ((htrial _).1 hfirst)
        exact (hruns u).1 hrest
    · rintro rfl
      exact .cons ((htrial _).2 rfl) ((hruns u).2 rfl)

/-! ## Recovery -/

/-- Texts are set and flushed one after another on an adapter without subscribers, and then one more
that is the notation of a record and is not the text that was set last. All this can go one way
only. If every one of the texts was the notation of a record, or could not be read because of an
integer that is too long, the last flush returns with the given values of the declared fields in the
record of the target. If not, the last text that was none has taken the place of the record and
stays there; the flush fails for want of an attribute if the last text has a value for a declared
field, and returns otherwise. -/
theorem recovers_unless_stray (hp : IsRecordProperty d p fields)
    (hw : After traced attr p place [] w) (texts : List String) {s : String}
    (hread : Json.read s.toList = .ok (.record es)) (hnew : texts.getLast? ≠ some s) (limit : Nat) :
    ∃ v outcome x, (∀ u, Runs (trial traced d attr limit) texts w u ↔ u = v) ∧
      (∀ e, trial traced d attr limit s v e ↔ e = (outcome, x)) ∧
      ((∀ t ∈ texts, isStray t = false) →
        outcome = .ok () ∧ x.attributes.lookup p = some (.record place) ∧ Sets fields es place x) ∧
      ∀ g, lastStray? texts = some g → x.attributes.lookup p = some (.value (.text g)) ∧
        (¬ Mentions fields es → outcome = .ok ()) ∧
        (Mentions fields es → ∃ fault, outcome = .error fault ∧ fault.kind = .attribute) := by
  obtain ⟨v, hruns, hv⟩ := hw.runs hp texts limit
  rw [List.nil_append] at hv
  obtain ⟨u, hset, hu⟩ := setAttribute_cases hp hv s
  rw [if_neg hnew] at hu
  have hlast : lastStray? (texts ++ [s]) = lastStray? texts := by
    rw [lastStray?_append, clean_of_record hread]
    rfl
  cases hg : lastStray? texts with
  | none =>
    obtain ⟨x, hflush, hx, hsets⟩ := hu.record_sets hp hread hg limit
    refine ⟨v, .ok (), x, hruns, fun e => ?_, fun _ => ⟨rfl, ?_, hsets⟩, nofun⟩
    · rw [trial_iff_of_ends hset]
      exact hflush e
    · rw [hx.shown, hlast, hg]
      rfl
  | some g =>
    have hdirty : ¬ ∀ t ∈ texts, isStray t = false := by
      rw [← lastStray?_eq_none, hg]
      exact nofun
    by_cases hmentions : Mentions fields es
    · obtain ⟨fault, x, hkind, hflush, hx⟩ := hu.record_breaks hp hread hg hmentions limit
      refine ⟨v, .error fault, x, hruns, fun e => ?_, fun hclean => absurd hclean hdirty,
        fun g' hg' => ⟨?_, fun hnone => absurd hmentions hnone, fun _ => ⟨fault, rfl, hkind⟩⟩⟩
      · rw [trial_iff_of_ends hset]
        exact hflush e
      · rw [hx.shown, hlast, hg, hg']
        rfl
    · obtain ⟨x, hflush, hx⟩ := hu.record_ends hp hread hg hmentions limit
      refine ⟨v, .ok (), x, hruns, fun e => ?_, fun hclean => absurd hclean hdirty,
        fun g' hg' => ⟨?_, fun _ => rfl, fun h => absurd h hmentions⟩⟩
      · rw [trial_iff_of_ends hset]
        exact hflush e
      · rw [hx.shown, hlast, hg, hg']
        rfl

/-! ## A text that is no record -/

/-- Adapters of a class whose only property is a record with a truth value. -/
def lampDefinition : AdapterDefinition (Held Datum) where
  className := "Lamp"
  metadata := { Metadata.empty with
    properties := [("switch", ⟨"switch", .record [("on", .scalar "boolean")], "how it is set"⟩)] }
  attributes := ["switch"]
  methods := []
  statics := []
  eventPrefix := "on-"
  shadowed := []

/-- A new adapter of a lamp. -/
def lampWorld : PlainWorld Datum where
  element := { ElementState.empty with
    values := [("switch", .record 0)], declared := [("switch", some "switch")] }
  state := ⟨.constructed, [], some .target⟩
  attributes := [("switch", .record 0)]
  records := [[("on", .value (.bool false))]]

theorem lamp_isRecordProperty : IsRecordProperty lampDefinition "switch" [("on", .scalar "boolean")] where
  plain := ⟨_, ⟨rfl, rfl⟩, rfl⟩
  stored := rfl
  simple field hfield := by
    rw [List.mem_singleton.1 hfield]
    exact ⟨"boolean", .boolean, rfl, rfl, nofun, nofun⟩
  keys := by decide

theorem lampWorld_after : After false "switch" "switch" 0 [] lampWorld where
  target := rfl
  idle := rfl
  named := rfl
  value := rfl
  shown := rfl
  known := by decide

/-- How the lamp is to be set. -/
def lampText : String := "\x7b\"on\": true\x7d"

theorem lampText_read : Json.read lampText.toList = .ok (.record [("on", .bool true)]) := rfl

/-- The text `oops` stays, and what is written after it is lost. -/
theorem lamp_lost_after_stray :
    ∃ v fault x, Runs (trial false lampDefinition "switch" 15) ["oops"] lampWorld v ∧
      (∀ e, trial false lampDefinition "switch" 15 lampText v e ↔ e = (.error fault, x)) ∧
      fault.kind = .attribute ∧ x.attributes.lookup "switch" = some (.value (.text "oops")) := by
  have hstray : lastStray? ["oops"] = some "oops" := by rfl
  have hmentions : Mentions [("on", .scalar "boolean")] [("on", .bool true)] :=
    ⟨_, List.mem_cons_self, by simp [given]⟩
  obtain ⟨v, outcome, x, hruns, htrial, -, hlost⟩ := recovers_unless_stray lamp_isRecordProperty
    lampWorld_after ["oops"] lampText_read (by decide) 15
  obtain ⟨hshown, -, hfails⟩ := hlost "oops" hstray
  obtain ⟨fault, rfl, hkind⟩ := hfails hmentions
  exact ⟨v, fault, x, (hruns v).2 rfl, htrial, hkind, hshown⟩

end SceneBridge.PlainWorld
