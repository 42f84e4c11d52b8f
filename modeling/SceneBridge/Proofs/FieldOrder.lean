import Mathlib.Data.List.Perm.Subperm
import SceneBridge.Proofs.Reconversion

/-!
# The order of fields

Types that differ in nothing but the order of record fields convert alike: the conversion to one of
them returns if and only if the conversion to the other does, and what the two return differs in
nothing but the order of entries. The order of fields decides which of them fails first, and so what
is complained about, but not whether one of them fails.
-/

namespace SceneBridge

open Text Number

/-! ## Equal types -/

namespace TypeExpr

variable {as bs : List TypeExpr} {fields fields' : List (String × TypeExpr)}

theorem sameAll_iff : sameAll as bs = true ↔ List.Forall₂ (fun a b => a.same b = true) as bs := by
  induction as generalizing bs with
  | nil => cases bs <;> simp [sameAll]
  | cons a as ih => cases bs <;> simp [sameAll, ih]

theorem sameFields_iff : sameFields fields fields' = true ↔
    ∀ f ∈ fields, ∃ t, fields'.lookup f.1 = some t ∧ f.2.same t = true := by
  induction fields with
  | nil => simp [sameFields]
  | cons f fields ih =>
    obtain ⟨key, t⟩ := f
    rw [sameFields, Bool.and_eq_true, ih, List.forall_mem_cons]
    cases fields'.lookup key <;> simp

/-- Every field of one of two equal records has its counterpart in the other one. -/
theorem perm_of_sameFields (hkeys : (fields.map (·.1)).Nodup) (hlength : fields.length = fields'.length)
    (h : sameFields fields fields' = true) : (fields.map (·.1)).Perm (fields'.map (·.1)) := by
  have hsubset : fields.map (·.1) ⊆ fields'.map (·.1) := by
    intro key hkey
    obtain ⟨f, hf, rfl⟩ := List.mem_map.1 hkey
    obtain ⟨t, ht, -⟩ := sameFields_iff.1 h f hf
    exact List.mem_map.2 ⟨(f.1, t), Entries.mem_of_lookup ht, rfl⟩
  refine (List.subperm_of_subset hkeys hsubset).perm_of_length_le ?_
  simp [hlength]

theorem same_of_sameFields (hkeys : (fields'.map (·.1)).Nodup) (h : sameFields fields fields' = true)
    {f g : String × TypeExpr} (hf : f ∈ fields) (hg : g ∈ fields') (hkey : f.1 = g.1) :
    f.2.same g.2 = true := by
  obtain ⟨t, ht, hsame⟩ := sameFields_iff.1 h f hf
  have hlookup : fields'.lookup g.1 = some g.2 := Entries.lookup_of_mem hkeys hg
  rw [hkey, hlookup] at ht
  rwa [← Option.some.inj ht] at hsame

end TypeExpr

/-! ## Alike data -/

namespace Datum

/-- The data differ in nothing but the order of entries in their records. -/
inductive Alike : Datum → Datum → Prop
  | refl (d : Datum) : Alike d d
  | list {as bs : List Datum} (hlength : as.length = bs.length)
      (hitems : ∀ {a b}, (a, b) ∈ as.zip bs → Alike a b) : Alike (.list as) (.list bs)
  | record {as bs : List (String × Datum)} (hkeys : (as.map (·.1)).Nodup)
      (hperm : (as.map (·.1)).Perm (bs.map (·.1)))
      (hentries : ∀ {key a b}, (key, a) ∈ as → (key, b) ∈ bs → Alike a b) :
      Alike (.record as) (.record bs)

variable {d e : Datum} {ds es : List Datum}

theorem alike_list (h : List.Forall₂ Alike ds es) : Alike (.list ds) (.list es) := by
  obtain ⟨hlength, hitems⟩ := List.forall₂_iff_zip.1 h
  exact .list hlength hitems

theorem equalLists?_congr (h : List.Forall₂ (fun a b => a.equal? b = a.equal? a) ds es) :
    equalLists? ds es = equalLists? ds ds := by
  induction h with
  | nil => rfl
  | cons h _ ih => rw [equalLists?, equalLists?, h, ih]

theorem equalEntries?_congr {as more bs : List (String × Datum)}
    (h : ∀ e ∈ as, ∃ b, bs.lookup e.1 = some b ∧ more.lookup e.1 = some e.2 ∧
      e.2.equal? b = e.2.equal? e.2) : equalEntries? as bs = equalEntries? as more := by
  induction as with
  | nil => rw [equalEntries?, equalEntries?]
  | cons e as ih =>
    obtain ⟨key, a⟩ := e
    obtain ⟨⟨b, hb, ha, heq⟩, hrest⟩ := List.forall_mem_cons.1 h
    rw [equalEntries?, equalEntries?, hb, ha]
    dsimp only
    rw [heq, ih hrest]

/-- Alike data are as equal to one another as a datum is to itself. -/
theorem Alike.equal?_eq (h : Alike d e) : d.equal? e = d.equal? d := by
  induction h with
  | refl d => rfl
  | list hlength _ ih =>
    rw [equal?, equal?]
    exact equalLists?_congr (List.forall₂_iff_zip.2 ⟨hlength, ih⟩)
  | @record as bs hkeys hperm _ ih =>
    have hlength : as.length = bs.length := by simpa using hperm.length_eq
    rw [equal?, equal?, hlength]
    simp only [beq_self_eq_true, if_true]
    refine equalEntries?_congr fun e he => ?_
    obtain ⟨⟨key, b⟩, hb, hkey⟩ := List.mem_map.1 (hperm.mem_iff.1 (List.mem_map_of_mem he))
    obtain rfl : key = e.1 := hkey
    exact ⟨b, Entries.lookup_of_mem (hperm.nodup_iff.1 hkeys) hb, Entries.lookup_of_mem hkeys he, ih he hb⟩

/-! ## Numbers in alike data -/

theorem Alike.toFloat_eq (h : Alike d e) : d.toFloat = e.toFloat := by
  cases h <;> rfl

theorem arrayShapes_congr (h : List.Forall₂ (fun a b => a.arrayShape = b.arrayShape) ds es) :
    arrayShapes ds = arrayShapes es := by
  induction h with
  | nil => rfl
  | cons h _ ih => rw [arrayShapes, arrayShapes, h, ih]

theorem arraysCells_congr (h : List.Forall₂ (fun a b => a.arrayCells = b.arrayCells) ds es) :
    arraysCells ds = arraysCells es := by
  induction h with
  | nil => rfl
  | cons h _ ih => rw [arraysCells, arraysCells, h, ih]

theorem Alike.arrayShape_eq (h : Alike d e) : d.arrayShape = e.arrayShape := by
  induction h with
  | refl d => rfl
  | list hlength _ ih =>
    rw [arrayShape, arrayShape, arrayShapes_congr (List.forall₂_iff_zip.2 ⟨hlength, ih⟩)]
  | record => rfl

theorem Alike.arrayCells_eq (h : Alike d e) : d.arrayCells = e.arrayCells := by
  induction h with
  | refl d => rfl
  | list hlength _ ih =>
    rw [arrayCells, arrayCells]
    exact arraysCells_congr (List.forall₂_iff_zip.2 ⟨hlength, ih⟩)
  | record => rfl

theorem Alike.toArray_eq (h : Alike d e) : d.toArray = e.toArray := by
  rw [toArray, toArray, h.arrayShape_eq, h.arrayCells_eq]

theorem mapM_toFloat_congr (h : List.Forall₂ Alike ds es) : ds.mapM toFloat = es.mapM toFloat := by
  induction h with
  | nil => rfl
  | cons h _ ih => rw [List.mapM_cons, List.mapM_cons, h.toFloat_eq, ih]

end Datum

/-! ## Constructors -/

open Datum (Alike)

/-- Constructors make the same of alike arguments, or refuse both of them. -/
theorem ValueKind.construct_congr {args args' : List Datum} (kind : ValueKind)
    (h : List.Forall₂ Alike args args') :
    kind.construct args = kind.construct args' ∨
      ∃ f g, kind.construct args = .error f ∧ kind.construct args' = .error g ∧
        Conversion.isBuildKind f.kind = true ∧ Conversion.isBuildKind g.kind = true := by
  have hrefused (d : Datum) :
      Conversion.isBuildKind (Fault.about Fault.colourValue d).kind = true := by
    rw [Conversion.isBuildKind, about_isValue rfl, Bool.true_or]
  cases kind with
  | color =>
    cases h with
    | nil => exact .inl rfl
    | @cons d e _ _ hfirst hrest =>
      cases hrest with
      | nil =>
        cases hfirst with
        | refl => exact .inl rfl
        | list => exact .inr ⟨_, _, rfl, rfl, hrefused _, hrefused _⟩
        | record => exact .inr ⟨_, _, rfl, rfl, hrefused _, hrefused _⟩
      | cons hsecond hrest =>
        cases hrest with
        | nil => exact .inl rfl
        | cons hthird hrest =>
          cases hrest with
          | nil =>
            refine .inl ?_
            simp only [construct, Colour.make, List.isEmpty_cons, Colour.ofData, hfirst.toFloat_eq,
              hsecond.toFloat_eq, hthird.toFloat_eq]
          | cons _ hrest =>
            refine .inl ?_
            simp only [construct, Colour.make, List.isEmpty_cons, Colour.ofData, List.length_cons,
              hrest.length_eq]
  | matrix3 | matrix4 =>
    refine .inl ?_
    cases h with
    | nil => rfl
    | cons hfirst hrest =>
      cases hrest with
      | nil => simp only [construct, ofElements, hfirst.toArray_eq]
      | cons _ hrest => simp only [construct, List.length_cons, hrest.length_eq]
  | vector2 | vector3 | vector4 | euler | quaternion =>
    refine .inl ?_
    simp only [construct, ofComponents, h.length_eq, Datum.mapM_toFloat_congr h]

/-! ## Outcomes -/

/-- Both computations return, and the relation holds of what they return, or both of them fail. -/
inductive Concur {α : Type} (R : α → α → Prop) : Except Fault α → Except Fault α → Prop
  | ok {a b : α} (h : R a b) : Concur R (.ok a) (.ok b)
  | error {f g : Fault} : Concur R (.error f) (.error g)

namespace Concur

variable {α β : Type} {R : α → α → Prop} {S : β → β → Prop} {x y : Except Fault α}

theorem returns_iff (h : Concur R x y) : (∃ a, x = .ok a) ↔ ∃ b, y = .ok b := by
  cases h with
  | ok => exact iff_of_true ⟨_, rfl⟩ ⟨_, rfl⟩
  | error => exact iff_of_false nofun nofun

theorem results {a b : α} (h : Concur R x y) (hx : x = .ok a) (hy : y = .ok b) : R a b := by
  subst hx hy
  cases h with
  | ok h => exact h

theorem refl (hR : ∀ a, R a a) (x : Except Fault α) : Concur R x x := by
  cases x with
  | ok a => exact .ok (hR a)
  | error f => exact .error

theorem bind {f g : α → Except Fault β} (hx : Concur R x y) (hf : ∀ a b, R a b → Concur S (f a) (g b)) :
    Concur S (x >>= f) (y >>= g) := by
  cases hx with
  | ok h => exact hf _ _ h
  | error => exact .error

/-- The same first step, and then steps that concur. -/
theorem bind_same {x : Except Fault α} {f g : α → Except Fault β} (hf : ∀ a, Concur S (f a) (g a)) :
    Concur S (x >>= f) (x >>= g) :=
  bind (R := Eq) (refl (fun _ => rfl) x) fun a _ hab => hab ▸ hf a

theorem mapM {f g : β → Except Fault α} (h : ∀ b, Concur R (f b) (g b)) (bs : List β) :
    Concur (List.Forall₂ R) (bs.mapM f) (bs.mapM g) := by
  induction bs with
  | nil => exact .ok .nil
  | cons b bs ih =>
    rw [List.mapM_cons, List.mapM_cons]
    exact (h b).bind fun a a' ha => ih.bind fun as as' has => .ok (.cons ha has)

end Concur

namespace Conversion

variable {d : Datum} {s t : TypeExpr} {strict : Bool}

/-! ## Passing through -/

theorem concur_degrade (strict : Bool) (d : Datum) (s t : TypeExpr) (reason reason' : Reason) :
    Concur Alike (degrade dataSurroundings strict d s reason)
      (degrade dataSurroundings strict d t reason') := by
  cases strict with
  | true => exact .error
  | false => exact .ok (.refl d)

theorem concur_orDegrade {kinds : FaultKind → Bool} {reason : Fault → Reason} {x y : Except Fault Datum}
    (h : x = y ∨ ∃ f g, x = .error f ∧ y = .error g ∧ kinds f.kind = true ∧ kinds g.kind = true) :
    Concur Alike (orDegrade dataSurroundings strict d s kinds reason x)
      (orDegrade dataSurroundings strict d t kinds reason y) := by
  obtain rfl | ⟨f, g, rfl, rfl, hf, hg⟩ := h
  · cases x with
    | ok r => exact .ok (.refl r)
    | error f =>
      change Concur Alike
        (if kinds f.kind then degrade dataSurroundings strict d s (reason f) else throw f)
        (if kinds f.kind then degrade dataSurroundings strict d t (reason f) else throw f)
      split
      · exact concur_degrade ..
      · exact .error
  · change Concur Alike
      (if kinds f.kind then degrade dataSurroundings strict d s (reason f) else throw f)
      (if kinds g.kind then degrade dataSurroundings strict d t (reason g) else throw g)
    rw [if_pos hf, if_pos hg]
    exact concur_degrade ..

/-! ## Parts -/

theorem concur_convertFirst {as bs : List TypeExpr} (names names' : List String)
    (h : List.Forall₂ (fun a b => Concur Alike (convertAs dataSurroundings true d a)
      (convertAs dataSurroundings true d b)) as bs) :
    Concur Alike (convertFirst dataSurroundings d names as)
      (convertFirst dataSurroundings d names' bs) := by
  induction h with
  | nil =>
    rw [convertFirst, convertFirst]
    exact .error
  | @cons a b as bs hab _ ih =>
    rw [convertFirst, convertFirst]
    generalize convertAs dataSurroundings true d a = x at hab
    generalize convertAs dataSurroundings true d b = y at hab
    cases hab with
    | ok hresult => exact .ok hresult
    | error => exact ih

theorem concur_convertParts {ps qs : List TypeExpr}
    (h : List.Forall₂ (fun p q => ∀ v, Concur Alike (convertAs dataSurroundings strict v p)
      (convertAs dataSurroundings strict v q)) ps qs) (parts : List Datum) :
    Concur (List.Forall₂ Alike) (convertParts dataSurroundings strict parts ps)
      (convertParts dataSurroundings strict parts qs) := by
  induction h generalizing parts with
  | nil =>
    rw [convertParts]
    exact .ok .nil
  | cons hp _ ih =>
    cases parts with
    | nil =>
      rw [convertParts, convertParts]
      exact .ok .nil
    | cons v parts =>
      rw [convertParts, convertParts]
      exact (hp v).bind fun r r' hr => (ih parts).bind fun rs rs' hrs => .ok (.cons hr hrs)

/-! ## Fields -/

section Fields

variable {source : FieldSource Datum} {fields fields' : List (String × TypeExpr)}

/-- The field is found, and is converted to the datum. -/
def ConvertsField (strict : Bool) (source : FieldSource Datum) (f : String × TypeExpr) (r : Datum) :
    Prop :=
  ∃ v, source.get dataSurroundings f.1 = .ok v ∧ convertAs dataSurroundings strict v f.2 = .ok r

/-- All fields are converted if each of them is, whatever their order. -/
theorem convertFields_returns_iff :
    (∃ es, convertFields dataSurroundings strict source fields = .ok es) ↔
      ∀ f ∈ fields, ∃ r, ConvertsField strict source f r := by
  induction fields with
  | nil =>
    rw [convertFields]
    exact iff_of_true ⟨[], rfl⟩ (List.forall_mem_nil _)
  | cons f fields ih =>
    obtain ⟨key, t⟩ := f
    rw [List.forall_mem_cons, ← ih, convertFields]
    constructor
    · rintro ⟨es, h⟩
      obtain ⟨v, hv, h⟩ := bind_eq_ok_iff.1 h
      obtain ⟨r, hr, h⟩ := bind_eq_ok_iff.1 h
      obtain ⟨rest, hrest, -⟩ := bind_eq_ok_iff.1 h
      exact ⟨⟨r, v, hv, hr⟩, rest, hrest⟩
    · rintro ⟨⟨r, v, hv, hr⟩, rest, hrest⟩
      refine ⟨(key, r) :: rest, bind_eq_ok_iff.2 ⟨v, hv, bind_eq_ok_iff.2 ⟨r, hr, ?_⟩⟩⟩
      exact bind_eq_ok_iff.2 ⟨rest, hrest, rfl⟩

theorem convertsField_of_mem {es : List (String × Datum)}
    (h : convertFields dataSurroundings strict source fields = .ok es) {key : String} {r : Datum}
    (hr : (key, r) ∈ es) : ∃ t, (key, t) ∈ fields ∧ ConvertsField strict source (key, t) r := by
  induction fields generalizing es with
  | nil =>
    rw [convertFields] at h
    obtain rfl := Except.ok.inj h
    cases hr
  | cons f fields ih =>
    obtain ⟨name, t⟩ := f
    rw [convertFields] at h
    obtain ⟨v, hv, h⟩ := bind_eq_ok_iff.1 h
    obtain ⟨first, hfirst, h⟩ := bind_eq_ok_iff.1 h
    obtain ⟨rest, hrest, h⟩ := bind_eq_ok_iff.1 h
    obtain rfl := Except.ok.inj h
    obtain heq | hmem := List.mem_cons.1 hr
    · obtain ⟨rfl, rfl⟩ := Prod.mk.inj heq
      exact ⟨t, List.mem_cons_self, v, hv, hfirst⟩
    · obtain ⟨t', ht', hconverts⟩ := ih hrest hmem
      exact ⟨t', List.mem_cons_of_mem _ ht', hconverts⟩

/-- Fields under one name with types that convert alike are converted alike. -/
theorem convertsField_concur {f g : String × TypeExpr} (hkey : f.1 = g.1)
    (h : ∀ v, Concur Alike (convertAs dataSurroundings strict v f.2)
      (convertAs dataSurroundings strict v g.2)) :
    ((∃ r, ConvertsField strict source f r) ↔ ∃ r, ConvertsField strict source g r) ∧
      ∀ r r', ConvertsField strict source f r → ConvertsField strict source g r' → Alike r r' := by
  constructor
  · unfold ConvertsField
    rw [hkey, exists_comm]
    simp only [exists_and_left, (h _).returns_iff]
    rw [exists_comm]
    simp only [exists_and_left]
  · rintro r r' ⟨v, hv, hr⟩ ⟨v', hv', hr'⟩
    rw [hkey, hv'] at hv
    obtain rfl := Except.ok.inj hv
    exact (h v').results hr hr'

/-- Which field comes first decides at most how the conversion of all of them fails. -/
theorem concur_convertFields (hkeys : (fields.map (·.1)).Nodup)
    (hperm : (fields.map (·.1)).Perm (fields'.map (·.1)))
    (h : ∀ f ∈ fields, ∀ g ∈ fields', f.1 = g.1 → ∀ v,
      Concur Alike (convertAs dataSurroundings strict v f.2) (convertAs dataSurroundings strict v g.2)) :
    Concur (fun es es' => Alike (.record es) (.record es'))
      (convertFields dataSurroundings strict source fields)
      (convertFields dataSurroundings strict source fields') := by
  have hreturns : (∃ es, convertFields dataSurroundings strict source fields = .ok es) ↔
      ∃ es, convertFields dataSurroundings strict source fields' = .ok es := by
    rw [convertFields_returns_iff, convertFields_returns_iff]
    constructor
    · intro hall g hg
      obtain ⟨f, hf, hkey⟩ := List.mem_map.1 (hperm.mem_iff.2 (List.mem_map_of_mem hg))
      exact (convertsField_concur hkey (h f hf g hg hkey)).1.1 (hall f hf)
    · intro hall f hf
      obtain ⟨g, hg, hkey⟩ := List.mem_map.1 (hperm.mem_iff.1 (List.mem_map_of_mem hf))
      exact (convertsField_concur hkey.symm (h f hf g hg hkey.symm)).1.2 (hall g hg)
  cases hfields : convertFields dataSurroundings strict source fields with
  | error f =>
    cases hfields' : convertFields dataSurroundings strict source fields' with
    | error g => exact .error
    | ok es' =>
      obtain ⟨es, hes⟩ := hreturns.2 ⟨es', hfields'⟩
      cases hfields.symm.trans hes
  | ok es =>
    obtain ⟨es', hes'⟩ := hreturns.1 ⟨es, hfields⟩
    rw [hes']
    have hnames : es.map (·.1) = fields.map (·.1) := convertFields_keys hfields
    have hnames' : es'.map (·.1) = fields'.map (·.1) := convertFields_keys hes'
    refine .ok (.record (hnames ▸ hkeys) (by rwa [hnames, hnames']) ?_)
    intro key a b ha hb
    obtain ⟨t, ht, hconverts⟩ := convertsField_of_mem hfields ha
    obtain ⟨t', ht', hconverts'⟩ := convertsField_of_mem hes' hb
    have hconcur := h (key, t) ht (key, t') ht' rfl
    exact (convertsField_concur (f := (key, t)) (g := (key, t')) rfl hconcur).2 a b hconverts hconverts'

end Fields

/-! ## One step into a type -/

theorem concur_array {element element' : TypeExpr}
    (h : ∀ v, Concur Alike (convertAs dataSurroundings strict v element)
      (convertAs dataSurroundings strict v element')) :
    Concur Alike (convertAs dataSurroundings strict d (.array element))
      (convertAs dataSurroundings strict d (.array element')) := by
  rw [convertAs, convertAs, see_bind, see_bind]
  split
  · exact .ok (.refl _)
  · refine .bind_same fun items? => ?_
    cases items? with
    | none => exact concur_degrade ..
    | some items => exact (Concur.mapM h items).bind fun rs rs' hrs => .ok (Datum.alike_list hrs)

theorem concur_generic {name : String} {ps qs : List TypeExpr}
    (h : List.Forall₂ (fun p q => ∀ v, Concur Alike (convertAs dataSurroundings strict v p)
      (convertAs dataSurroundings strict v q)) ps qs) :
    Concur Alike (convertAs dataSurroundings strict d (.generic name ps))
      (convertAs dataSurroundings strict d (.generic name qs)) := by
  rw [convertAs, convertAs, see_bind, see_bind]
  split
  · exact .ok (.refl _)
  · refine .bind_same fun found => ?_
    cases found with
    | none => exact concur_degrade ..
    | some kind =>
      refine .bind_same fun known => ?_
      cases known with
      | true => exact .ok (.refl d)
      | false =>
        rw [h.length_eq]
        refine .bind_same fun parts? => ?_
        cases parts? with
        | none => exact concur_degrade ..
        | some parts =>
          refine (concur_convertParts h parts).bind fun args args' hargs => concur_orDegrade ?_
          -- What is built depends on the parts of the value alone.
          obtain hsame | ⟨f, g, hf, hg, hkinds⟩ := kind.construct_congr hargs
          · refine .inl ?_
            dsimp only [dataSurroundings]
            rw [hsame]
          · refine .inr ⟨f, g, ?_, ?_, hkinds⟩
            · exact build_eq_error_iff.2 hf
            · exact build_eq_error_iff.2 hg

theorem concur_record {fields fields' : List (String × TypeExpr)} (hkeys : (fields.map (·.1)).Nodup)
    (hperm : (fields.map (·.1)).Perm (fields'.map (·.1)))
    (h : ∀ f ∈ fields, ∀ g ∈ fields', f.1 = g.1 → ∀ v,
      Concur Alike (convertAs dataSurroundings strict v f.2) (convertAs dataSurroundings strict v g.2)) :
    Concur Alike (convertAs dataSurroundings strict d (.record fields))
      (convertAs dataSurroundings strict d (.record fields')) := by
  rw [convertAs, convertAs]
  refine .bind_same fun source? => ?_
  cases source? with
  | error reason => exact concur_degrade ..
  | ok source => exact (concur_convertFields hkeys hperm h).bind fun es es' hes => .ok hes

/-! ## All types -/

/-- Lists of types that are equal place by place convert alike place by place, if equal types do. -/
theorem concur_all {as bs : List TypeExpr} (h : TypeExpr.sameAll as bs = true)
    (has : ∀ a ∈ as, a.Keyed) (hbs : ∀ b ∈ bs, b.Keyed)
    (ih : ∀ a ∈ as, ∀ {b : TypeExpr}, a.Keyed → b.Keyed → a.same b = true → ∀ strict v,
      Concur Alike (convertAs dataSurroundings strict v a) (convertAs dataSurroundings strict v b))
    (strict : Bool) :
    List.Forall₂ (fun a b => ∀ v, Concur Alike (convertAs dataSurroundings strict v a)
      (convertAs dataSurroundings strict v b)) as bs := by
  obtain ⟨hlength, hzip⟩ := List.forall₂_iff_zip.1 (TypeExpr.sameAll_iff.1 h)
  refine List.forall₂_iff_zip.2 ⟨hlength, fun hab v => ?_⟩
  obtain ⟨ha, hb⟩ := List.of_mem_zip hab
  exact ih _ ha (has _ ha) (hbs _ hb) (hzip hab) strict v

/-- Inside a choice and outside of it, equal types convert alike. -/
theorem concur_convertAs (hs : s.Keyed) (ht : t.Keyed) (h : s.same t = true) (strict : Bool) (d : Datum) :
    Concur Alike (convertAs dataSurroundings strict d s) (convertAs dataSurroundings strict d t) := by
  -- Only a type of the same form can be equal.
  induction s generalizing t strict d with
  | scalar name =>
    cases t with
    | scalar name' =>
      rw [TypeExpr.same, beq_iff_eq] at h
      subst h
      exact .refl .refl _
    | _ => cases h
  | array element ih =>
    cases t with
    | array element' =>
      cases hs with
      | array hs =>
        cases ht with
        | array ht => exact concur_array fun v => ih hs ht h strict v
    | _ => cases h
  | union as ih =>
    cases t with
    | union bs =>
      cases hs with
      | union hs =>
        cases ht with
        | union ht =>
          rw [convertAs, convertAs]
          -- Alternatives are tried strictly, however strict the choice itself is.
          exact concur_convertFirst _ _ ((concur_all h hs ht ih true).imp fun _ _ hall => hall d)
    | _ => cases h
  | generic name ps ih =>
    cases t with
    | generic name' qs =>
      cases hs with
      | generic hs =>
        cases ht with
        | generic ht =>
          rw [TypeExpr.same, Bool.and_eq_true, beq_iff_eq] at h
          obtain ⟨rfl, h⟩ := h
          exact concur_generic (concur_all h hs ht ih strict)
    | _ => cases h
  | record fields ih =>
    cases t with
    | record fields' =>
      cases hs with
      | record hkeys hs =>
        cases ht with
        | record hkeys' ht =>
          rw [TypeExpr.same, Bool.and_eq_true, beq_iff_eq] at h
          obtain ⟨hlength, h⟩ := h
          refine concur_record hkeys (TypeExpr.perm_of_sameFields hkeys hlength h) ?_
          intro f hf g hg hkey v
          exact ih f hf (hs f hf) (ht g hg) (TypeExpr.same_of_sameFields hkeys' h hf hg hkey) strict v
    | _ => cases h

/-- The conversion to one of two equal types returns if and only if the conversion to the other one
does, and then the results differ in nothing but the order of entries, so that they are as equal to
one another as the first is to itself. -/
theorem convert_same (hs : s.Keyed) (ht : t.Keyed) (h : s.same t = true) (traced : Bool) (d : Datum) :
    ((∃ r, (d.convert traced s).1 = .ok r) ↔ ∃ r, (d.convert traced t).1 = .ok r) ∧
    ∀ r r', (d.convert traced s).1 = .ok r → (d.convert traced t).1 = .ok r' →
      Alike r r' ∧ r.equal? r' = r.equal? r := by
  have hconcur := concur_convertAs hs ht h false d
  rw [convert_eq_convertAs, convert_eq_convertAs]
  refine ⟨hconcur.returns_iff, fun r r' hr hr' => ?_⟩
  have halike := hconcur.results hr hr'
  exact ⟨halike, halike.equal?_eq⟩

/-- Two records within a choice, one of them in an array in the other, with their fields exchanged. -/
theorem convert_same_of_exchanged_fields :
    let s : TypeExpr := .union [.scalar "int",
      .record [("a", .scalar "string"), ("b", .array (.record [("x", .scalar "any"), ("y", .scalar "int")]))]]
    let t : TypeExpr := .union [.scalar "int",
      .record [("b", .array (.record [("y", .scalar "int"), ("x", .scalar "any")])), ("a", .scalar "string")]]
    let d : Datum := .record
      [("b", .list [.record [("y", .flag true), ("x", .bool false), ("z", .null)]]), ("a", .text "1")]
    let r : Datum := .record [("a", .text "1"), ("b", .list [.record [("x", .bool false), ("y", .int 1)]])]
    let r' : Datum := .record [("b", .list [.record [("y", .int 1), ("x", .bool false)]]), ("a", .text "1")]
    s.same t = true ∧ (d.convert true s).1 = .ok r ∧ (d.convert true t).1 = .ok r' ∧
      Alike r r' ∧ r.equal? r' = some true := by
  intro s t d r r'
  have hs : s.Keyed := by
    refine .union (List.forall_mem_cons.2 ⟨.scalar _, List.forall_mem_singleton.2 ?_⟩)
    refine .record (by decide) (List.forall_mem_cons.2 ⟨.scalar _, List.forall_mem_singleton.2 ?_⟩)
    refine .array (.record (by decide) ?_)
    exact List.forall_mem_cons.2 ⟨.scalar _, List.forall_mem_singleton.2 (.scalar _)⟩
  have ht : t.Keyed := by
    refine .union (List.forall_mem_cons.2 ⟨.scalar _, List.forall_mem_singleton.2 ?_⟩)
    refine .record (by decide) (List.forall_mem_cons.2 ⟨?_, List.forall_mem_singleton.2 (.scalar _)⟩)
    refine .array (.record (by decide) ?_)
    exact List.forall_mem_cons.2 ⟨.scalar _, List.forall_mem_singleton.2 (.scalar _)⟩
  have hsame : s.same t = true := by decide
  have hr : (d.convert true s).1 = .ok r := by
    rw [convert_eq_convertAs]
    simp only [s, convertAs, convertFirst, convertFields, List.map]
    rfl
  have hr' : (d.convert true t).1 = .ok r' := by
    rw [convert_eq_convertAs]
    simp only [t, convertAs, convertFirst, convertFields, List.map]
    rfl
  obtain ⟨halike, hequal⟩ := (convert_same hs ht hsame true d).2 r r' hr hr'
  exact ⟨hsame, hr, hr', halike, hequal.trans (by rfl)⟩

end Conversion

end SceneBridge
