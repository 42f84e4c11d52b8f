import SceneBridge.Proofs.Absence
import SceneBridge.Proofs.PlainTarget

/-!
# Merging records

A text that is written to a property of a record type is converted to a record, whose fields are put
into the record that the target has. What becomes of the entries that the text does not mention
depends on what their types make of a missing value.
-/

namespace SceneBridge.PlainWorld

open Possibly Conversion

variable {V : Type} {H : Handling V} {d : AdapterDefinition (Held V)} {v w x : PlainWorld V}

/-! ## Entries -/

theorem getD_modify_self (rs : Records V) {place : Nat} (hplace : place < rs.length)
    (f : List (String × Held V) → List (String × Held V)) :
    (rs.modify place f).getD place [] = f (rs.getD place []) := by
  simp [List.getD_eq_getElem?_getD, hplace]

theorem getD_modify_of_ne (rs : Records V) {place other : Nat} (h : other ≠ place)
    (f : List (String × Held V) → List (String × Held V)) :
    (rs.modify place f).getD other [] = rs.getD other [] := by
  simp [List.getD_eq_getElem?_getD, Ne.symm h]

theorem entryOf?_putEntry_self {place : Nat} (hplace : place < w.records.length) (key : String)
    (y : Held V) : (w.putEntry place key y).entryOf? place key = some y := by
  unfold entryOf? putEntry
  rw [getD_modify_self _ hplace, Entries.lookup_put_self]

theorem entryOf?_putEntry_of_ne {place : Nat} {key other : String} (h : other ≠ key) (y : Held V) :
    (w.putEntry place key y).entryOf? place other = w.entryOf? place other := by
  unfold entryOf? putEntry
  by_cases hplace : place < w.records.length
  · rw [getD_modify_self _ hplace, Entries.lookup_put_of_ne _ _ h]
  · rw [List.modify_eq_self (Nat.le_of_not_lt hplace)]

/-- What merging does besides setting entries. -/
structure IsMerge (place : Nat) (w x : PlainWorld V) : Prop where
  element : x.element = w.element
  attributes : x.attributes = w.attributes
  size : x.records.length = w.records.length
  others : ∀ other ≠ place, x.records.getD other [] = w.records.getD other []

theorem merge_isMerge (place : Nat) (w : PlainWorld V) (field : String × Held V) :
    IsMerge place w (merge H place w field) := by
  unfold merge
  split
  · exact ⟨rfl, rfl, rfl, fun _ _ => rfl⟩
  · refine ⟨rfl, rfl, ?_, fun other hother => getD_modify_of_ne _ hother _⟩
    simp [putEntry]

theorem foldl_merge_isMerge (place : Nat) (w : PlainWorld V) (fields : List (String × Held V)) :
    IsMerge place w (fields.foldl (merge H place) w) := by
  induction fields generalizing w with
  | nil => exact ⟨rfl, rfl, rfl, fun _ _ => rfl⟩
  | cons field fields ih =>
    have hone := merge_isMerge (H := H) place w field
    have hrest := ih (merge H place w field)
    refine ⟨hrest.element.trans hone.element, hrest.attributes.trans hone.attributes,
      hrest.size.trans hone.size, fun other hother => ?_⟩
    exact (hrest.others other hother).trans (hone.others other hother)

/-- An entry stays as it is if no field of its name has a value. -/
theorem entryOf?_foldl_merge_of_nothing {place : Nat} {key : String} {fields : List (String × Held V)}
    (h : ∀ y, (key, y) ∈ fields → isNothing H y = true) :
    (fields.foldl (merge H place) w).entryOf? place key = w.entryOf? place key := by
  induction fields generalizing w with
  | nil => rfl
  | cons field fields ih =>
    obtain ⟨name, y⟩ := field
    have hone : (merge H place w (name, y)).entryOf? place key = w.entryOf? place key := by
      unfold merge
      split
      · rfl
      · rename_i hy
        refine entryOf?_putEntry_of_ne ?_ y
        rintro rfl
        exact hy (h y List.mem_cons_self)
    rw [List.foldl_cons, ih fun y hy => h y (List.mem_cons_of_mem _ hy), hone]

/-- An entry is set to the value of the field of its name. -/
theorem entryOf?_foldl_merge_of_mem {place : Nat} (hplace : place < w.records.length) {key : String}
    {y : Held V} {fields : List (String × Held V)} (hkeys : (fields.map (·.1)).Nodup)
    (hmem : (key, y) ∈ fields) (hy : isNothing H y = false) :
    (fields.foldl (merge H place) w).entryOf? place key = some y := by
  induction fields generalizing w with
  | nil => cases hmem
  | cons field fields ih =>
    rw [List.map_cons, List.nodup_cons] at hkeys
    have hsize : place < (merge H place w field).records.length := by
      rw [(merge_isMerge place w field).size]
      exact hplace
    rw [List.foldl_cons]
    rcases List.mem_cons.1 hmem with rfl | hmem
    · -- No later field has the name, so none sets the entry again.
      rw [entryOf?_foldl_merge_of_nothing]
      · unfold merge
        rw [if_neg (by simp [hy])]
        exact entryOf?_putEntry_self hplace key y
      · intro z hz
        exact absurd (List.mem_map_of_mem hz) hkeys.1
    · exact ih hsize hkeys.2 hmem

/-! ## Other properties -/

/-- The record at a place is left as it is, and of the target at most the one attribute is written,
with a record at a new place. -/
structure IsApart (place : Nat) (q : String) (w x : PlainWorld V) : Prop where
  same : x.records.getD place [] = w.records.getD place []
  size : w.records.length ≤ x.records.length
  others : ∀ p ≠ q, x.attributes.lookup p = w.attributes.lookup p
  new : x.attributes.lookup q = w.attributes.lookup q ∨
    x.attributes.lookup q = some (.record w.records.length)

/-- Nothing can be put into a value that is no record. -/
theorem mergeInto_eq_of_closed {q : String} {y : V} (hcurrent : w.targetValue H q = .value y)
    (hsome : ¬ isNothing H (.value y) = true) {fields : List (String × Held V)}
    {outcome : Except Fault Unit}
    (hrun : (notingAdapter H d).mergeInto .target q fields w (outcome, x)) : x = w := by
  have hR : IsStep (fun v w : PlainWorld V => w = v) := ⟨fun _ => rfl, fun h₁ h₂ => h₂.trans h₁⟩
  have hrefuse (field : String × Held V) : Advances (fun v w : PlainWorld V => w = v)
      (if (notingAdapter H d).isNothing field.2 then pure ()
        else do
          if ← (notingAdapter H d).isOpenRecord (.value y) then
            (notingAdapter H d).setEntry (.value y) field.1 field.2
          else (notingAdapter H d).setMember (.value y) field.1 field.2) := by
    refine .ite (fun _ => .pure hR _) fun _ => .bind hR (.pure hR false) fun known => ?_
    cases known with
    | true => exact .throw hR _
    | false => exact .throw hR _
  have hpeek : Ends ((notingAdapter H d).peek .target q) w (.value y) w := by
    rw [← hcurrent]
    exact .read _ w
  have hrest := hpeek.bind_iff.1 hrun
  exact Advances.ite (fun h => absurd h hsome) (fun _ => .forM hR fun field _ => hrefuse field) _ _ _ hrest

theorem mergeInto_isApart {place : Nat} (hplace : place < w.records.length) {q : String}
    (hrecord : w.targetValue H q ≠ .record place) (hself : w.targetValue H q ≠ .target)
    {fields : List (String × Held V)} {outcome : Except Fault Unit}
    (hrun : (notingAdapter H d).mergeInto .target q fields w (outcome, x)) : IsApart place q w x := by
  cases hcurrent : w.targetValue H q with
  | target => exact absurd hcurrent hself
  | record other =>
    obtain ⟨-, rfl⟩ := Prod.mk.inj ((mergeInto_ends_of_record hcurrent fields _).1 hrun)
    have hmerge := foldl_merge_isMerge (H := H) other w fields
    have hne : place ≠ other := by
      rintro rfl
      exact hrecord hcurrent
    refine ⟨hmerge.others place hne, hmerge.size.ge, fun p _ => ?_, .inl ?_⟩
    · rw [hmerge.attributes]
    · rw [hmerge.attributes]
  | value y =>
    by_cases hnothing : isNothing H (w.targetValue H q) = true
    · obtain ⟨-, rfl⟩ := Prod.mk.inj ((mergeInto_ends_of_nothing hnothing fields _).1 hrun)
      refine ⟨?_, ?_, fun p hp => Entries.lookup_put_of_ne _ _ hp, .inr (Entries.lookup_put_self _ _ _)⟩
      · simp [put, add, List.getD_eq_getElem?_getD, List.getElem?_append_left hplace]
      · simp [put, add]
    · rw [hcurrent] at hnothing
      obtain rfl := mergeInto_eq_of_closed hcurrent hnothing hrun
      exact ⟨rfl, Nat.le_refl _, fun _ _ => rfl, .inl rfl⟩

/-! ## The record of a property -/

/-- Values are converted in the surroundings `k`, and what comes out is a value of its own. -/
structure Converts {C : Type} (H : Handling V) (k : Surroundings (Except Fault) V C) : Prop where
  convert : ∀ rs v t, H.convert rs (.value v) t = .value <$> convertAs k false v t
  made : ∀ {rs y t c}, H.convert rs y t = .ok c → ∃ v, c = .value v
  entries : ∀ {v es}, k.entries? v = .ok (some es) → H.entries? v = some es
  text : ∀ s, k.see (H.ofText s) = .ok (.text s)

theorem Converts.ofSurroundings {C : Type} {k : Surroundings (Except Fault) V C}
    (hnote : ∀ n, k.note n = pure ()) {ofText : String → V}
    (htext : ∀ s, k.see (ofText s) = .ok (.text s)) (traced : Bool) (nothing self : V)
    (isNothing : V → Bool) (differs : V → V → Bool) (ofRecord : List (String × Held V) → V) :
    Converts (.ofSurroundings k traced nothing self isNothing ofText differs ofRecord) k where
  convert rs v t := congrArg (Held.value <$> ·) (convert_fst hnote traced v t)
  made {rs y t c} hc := by
    obtain ⟨v, -, hv⟩ := bind_eq_ok_iff.1 hc
    exact ⟨v, (Except.ok.inj hv).symm⟩
  entries {v es} hv := by
    unfold Handling.ofSurroundings
    dsimp only
    rw [hv]
  text := htext

/-- The target has the record at a place for the property `p`, and none of the other properties that
have changed shares it. -/
structure Guards (H : Handling V) (d : AdapterDefinition (Held V)) (names : List String) (p : String)
    (place : Nat) (w : PlainWorld V) : Prop where
  held : w.attributes.lookup p = some (.record place)
  known : place < w.records.length
  alone : ∀ q ∈ names, q ≠ p → ∀ info fields, IsPlain d q info → info.type = .record fields →
    w.targetValue H q ≠ .record place ∧ w.targetValue H q ≠ .target

variable {C : Type} {k : Surroundings (Except Fault) V C} {names : List String} {p q : String}
  {place : Nat}

theorem Guards.of_isApart (h : Guards H d names p place w) (hq : q ≠ p) (hx : IsApart place q w x) :
    Guards H d names p place x where
  held := (hx.others p (Ne.symm hq)).trans h.held
  known := Nat.lt_of_lt_of_le h.known hx.size
  alone q' hq' hne info fields hplain htype := by
    have hbefore := h.alone q' hq' hne info fields hplain htype
    unfold targetValue at hbefore ⊢
    by_cases hsame : q' = q
    · subst hsame
      rcases hx.new with hnew | hnew
      · rw [hnew]
        exact hbefore
      · -- A record that is made for another property has a place of its own.
        rw [hnew, Option.getD_some]
        have hplace := h.known.ne'
        exact ⟨by simpa using hplace, nofun⟩
    · rw [hx.others q' hsame]
      exact hbefore

theorem Guards.put (hH : Converts H k) (h : Guards H d names p place w) (hq : q ≠ p)
    {info : PropertyInfo} {c : Held V} (hinfo : IsPlain d q info)
    (hc : w.converted H q info = .ok c) : Guards H d names p place (w.put q c) where
  held := (Entries.lookup_put_of_ne _ _ (Ne.symm hq)).trans h.held
  known := h.known
  alone q' hq' hne info' fields hplain htype := by
    have hbefore := h.alone q' hq' hne info' fields hplain htype
    unfold targetValue at hbefore ⊢
    unfold PlainWorld.put
    by_cases hsame : q' = q
    · subst hsame
      obtain ⟨v, rfl⟩ := hH.made hc
      rw [Entries.lookup_put_self, Option.getD_some]
      exact ⟨nofun, nofun⟩
    · rw [Entries.lookup_put_of_ne _ _ hsame]
      exact hbefore

/-- Another property that has changed is written without touching the record. -/
theorem applyChange_guards (hH : Converts H k) (h : Guards H d names p place w) (hq : q ∈ names)
    (hne : q ≠ p) {outcome : Except Fault (Option Fault)}
    (hrun : (notingAdapter H d).applyChange .target q w (outcome, x)) :
    Guards H d names p place x ∧ x.records.getD place [] = w.records.getD place [] := by
  by_cases hplain : ∃ info, IsPlain d q info
  · obtain ⟨info, hinfo⟩ := hplain
    rw [applyChange_iff hinfo] at hrun
    split at hrun
    · split at hrun
      · obtain ⟨-, rfl⟩ := Prod.mk.inj hrun
        exact ⟨h, rfl⟩
      · obtain ⟨-, rfl⟩ := Prod.mk.inj hrun
        exact ⟨h, rfl⟩
    · rename_i c hc
      split at hrun
      · rename_i declared fields htype hfields
        obtain ⟨hrecord, hself⟩ := h.alone q hq hne info declared hinfo htype
        have hmerge : ∃ inner, (notingAdapter H d).mergeInto .target q fields w (inner, x) := by
          rcases bind_cases hrun with ⟨f, -, hmerge⟩ | ⟨_, u, hmerge, hlast⟩
          · exact ⟨_, hmerge⟩
          · obtain ⟨-, rfl⟩ := Prod.mk.inj hlast
            exact ⟨_, hmerge⟩
        obtain ⟨inner, hmerge⟩ := hmerge
        have hapart := mergeInto_isApart h.known hrecord hself hmerge
        exact ⟨h.of_isApart hne hapart, hapart.same⟩
      · obtain ⟨-, rfl⟩ := Prod.mk.inj hrun
        exact ⟨h.put hH hne hinfo hc, rfl⟩
  · have hother : ∀ info, ¬ IsPlain d q info := fun info hinfo => hplain ⟨info, hinfo⟩
    obtain ⟨-, rfl⟩ := Prod.mk.inj ((applyChange_ends_of_other hother _).1 hrun)
    exact ⟨h, rfl⟩

/-! ## The change of the property -/

/-- A text that is the notation of a record with the entries `es` is the value of the property `p`,
whose type is a record with the declared fields. -/
structure HoldsText (H : Handling V) (d : AdapterDefinition (Held V))
    (k : Surroundings (Except Fault) V C) (p : String) (fields : List (String × TypeExpr))
    (es : List (String × Datum)) (v : V) : Prop where
  plain : ∃ info, IsPlain d p info ∧ info.type = .record fields
  text : ∃ s, k.see v = .ok (.text s) ∧ Json.read s.toList = .ok (.record es)

variable {fields : List (String × TypeExpr)} {es : List (String × Datum)} {v₀ : V}

/-- The fields of a record as what the adapter handles. -/
def held (rs : List (String × V)) : List (String × Held V) :=
  rs.map fun (key, v) => (key, .value v)

theorem mem_held {rs : List (String × V)} {key : String} {y : Held V} :
    (key, y) ∈ held rs ↔ ∃ r, (key, r) ∈ rs ∧ y = .value r := by
  simp [held, eq_comm]

theorem held_keys (rs : List (String × V)) : (held rs).map (·.1) = rs.map (·.1) := by
  simp [held]

/-- The fields of a converted record are put into the record that the target has. -/
theorem applyChange_ends_of_record {info : PropertyInfo} (hinfo : IsPlain d p info)
    (htype : info.type = .record fields) {c : Held V} (hc : w.converted H p info = .ok c)
    {entries : List (String × Held V)} (hentries : fields? H w c = some entries)
    (hcurrent : w.targetValue H p = .record place) :
    Ends ((notingAdapter H d).applyChange .target p) w none (entries.foldl (merge H place) w) := by
  have hmerge : Ends (do
      (notingAdapter H d).mergeInto .target p entries
      return (none : Option Fault)) w none (entries.foldl (merge H place) w) :=
    .bind (mergeInto_ends_of_record hcurrent _) (.pure none _)
  intro e
  rw [applyChange_iff hinfo, hc, htype]
  dsimp only
  rw [hentries]
  exact hmerge e

/-- The change leaves the target alone, or puts the converted fields into the record. -/
theorem applyChange_text (hH : Converts H k) (hk : TakesNothing k H.nothing H.isNothing)
    (ht : HoldsText H d k p fields es v₀) (hvalue : w.value H p = .value v₀)
    (h : Guards H d names p place w) {outcome : Except Fault (Option Fault)}
    (hrun : (notingAdapter H d).applyChange .target p w (outcome, x)) :
    (outcome ≠ .ok none ∧ x = w) ∨
      ∃ rs, convertFields k false (.data es) fields = .ok rs ∧ outcome = .ok none ∧
        x = (held rs).foldl (merge H place) w := by
  obtain ⟨info, hinfo, htype⟩ := ht.plain
  obtain ⟨s, hsee, hread⟩ := ht.text
  have hconverted : w.converted H p info =
      Held.value <$> (convertFields k false (.data es) fields >>= k.record) := by
    rw [converted, hvalue, htype, hH.convert, convertAs_record_text hsee hread]
  have hcurrent : w.targetValue H p = .record place := by
    rw [targetValue, h.held, Option.getD_some]
  cases hfields : convertFields k false (.data es) fields with
  | error f =>
    rw [applyChange_iff hinfo, hconverted, hfields] at hrun
    change (if f.kind = .conversion then _ else _) at hrun
    left
    split at hrun
    · obtain ⟨rfl, rfl⟩ := Prod.mk.inj hrun
      exact ⟨nofun, rfl⟩
    · obtain ⟨rfl, rfl⟩ := Prod.mk.inj hrun
      exact ⟨nofun, rfl⟩
  | ok rs =>
    obtain ⟨r, hr⟩ := hk.record rs
    have hmade : w.converted H p info = .ok (.value r) := by
      rw [hconverted, hfields, ok_bind, hr]
      rfl
    have hentries : fields? H w (.value r) = some (held rs) := by
      rw [fields?, hH.entries (hk.entries hr).1]
      rfl
    have hends := applyChange_ends_of_record hinfo htype hmade hentries hcurrent
    obtain ⟨rfl, rfl⟩ := Prod.mk.inj ((hends _).1 hrun)
    exact .inr ⟨rs, rfl, rfl, rfl⟩

end SceneBridge.PlainWorld
