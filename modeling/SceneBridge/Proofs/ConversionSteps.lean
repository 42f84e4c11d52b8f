import Mathlib.Data.List.Forall2
import SceneBridge.Proofs.FailingConversions

/-!
# Steps of a conversion

What the coercions and constructors behind a name give is what the conversion by that name gives.
Where they fail with a fault that is caught, the datum passes through instead.
-/

namespace SceneBridge

/-- A list of computations returns what each of them returns. -/
theorem mapM_eq_ok_iff {α β : Type} {f : α → Except Fault β} {as : List α} {bs : List β} :
    as.mapM f = .ok bs ↔ List.Forall₂ (fun a b => f a = .ok b) as bs := by
  induction as generalizing bs with
  | nil =>
    rw [List.mapM_nil, List.forall₂_nil_left_iff]
    constructor
    · intro h
      exact (Except.ok.inj h).symm
    · rintro rfl
      rfl
  | cons a as ih =>
    rw [List.mapM_cons]
    constructor
    · intro h
      obtain ⟨b, hb, h⟩ := bind_eq_ok_iff.1 h
      obtain ⟨rest, hrest, h⟩ := bind_eq_ok_iff.1 h
      obtain rfl := Except.ok.inj h
      exact .cons hb (ih.1 hrest)
    · intro h
      cases h with
      | cons hb hrest => exact bind_eq_ok_iff.2 ⟨_, hb, bind_eq_ok_iff.2 ⟨_, ih.2 hrest, rfl⟩⟩

theorem mapM_returns_iff {α β : Type} {f : α → Except Fault β} {as : List α} :
    (∃ bs, as.mapM f = .ok bs) ↔ ∀ a ∈ as, ∃ b, f a = .ok b := by
  simp only [mapM_eq_ok_iff]
  induction as with
  | nil => exact iff_of_true ⟨[], .nil⟩ nofun
  | cons a as ih =>
    rw [List.forall_mem_cons, ← ih]
    constructor
    · rintro ⟨bs, hbs⟩
      cases hbs with
      | cons hb hrest => exact ⟨⟨_, hb⟩, _, hrest⟩
    · rintro ⟨⟨b, hb⟩, bs, hbs⟩
      exact ⟨b :: bs, .cons hb hbs⟩

theorem forall_mem_of_mapM {α β : Type} {P : β → Prop} {f : α → Except Fault β} {as : List α}
    {bs : List β} (h : as.mapM f = .ok bs) (hP : ∀ a b, f a = .ok b → P b) : ∀ b ∈ bs, P b := by
  have hall := mapM_eq_ok_iff.1 h
  clear h
  induction hall with
  | nil => exact nofun
  | cons hb _ ih => exact List.forall_mem_cons.2 ⟨hP _ _ hb, ih⟩

namespace Conversion

variable {d r : Datum} {t : TypeExpr} {name : String} {p : Primitive} {kind : ValueKind}

/-! ## Passing through -/

theorem orDegrade_ok (d : Datum) (t : TypeExpr) (kinds : FaultKind → Bool) (reason : Fault → Reason)
    (r : Datum) : orDegrade dataSurroundings false d t kinds reason (.ok r) = .ok r :=
  rfl

theorem orDegrade_of_caught {kinds : FaultKind → Bool} {reason : Fault → Reason} {f : Fault}
    (hf : kinds f.kind = true) :
    orDegrade dataSurroundings false d t kinds reason (.error f) = .ok d :=
  if_pos hf

theorem orDegrade_eq_ok {kinds : FaultKind → Bool} {reason : Fault → Reason} {x : Except Fault Datum}
    (h : orDegrade dataSurroundings false d t kinds reason x = .ok r) : r = d ∨ x = .ok r := by
  cases x with
  | ok y => exact .inr h
  | error f =>
    have hcases : orDegrade dataSurroundings false d t kinds reason (.error f) = .ok d ∨
        orDegrade dataSurroundings false d t kinds reason (.error f) = .error f :=
      orDegrade_of_error rfl
    rcases hcases with hd | hf
    · exact .inl (Except.ok.inj (h.symm.trans hd))
    · cases h.symm.trans hf

/-! ## Names -/

theorem isAny_of_primitive (h : primitive? name = some p) : isAny name = false := by
  cases hany : isAny name with
  | false => rfl
  | true =>
    have hnames : (name = "any" ∨ name = "*") ∨ name = "mixed" := by simpa [isAny] using hany
    rcases hnames with (rfl | rfl) | rfl <;> cases h

/-- Nothing is returned as it is; any other datum is converted by the name. -/
theorem convertAs_scalar (hd : d ≠ .null) (name : String) :
    convertAs dataSurroundings false d (.scalar name) =
      convertScalar dataSurroundings false d name := by
  rw [convertAs, see_bind]
  cases d with
  | null => exact absurd rfl hd
  | _ => rfl

theorem convertAs_primitive (hd : d ≠ .null) (hname : primitive? name = some p) :
    convertAs dataSurroundings false d (.scalar name) =
      orDegrade dataSurroundings false d (.scalar name) FaultKind.isValue .coercion
        (coerce dataSurroundings p d) := by
  rw [convertAs_scalar hd, convertScalar, isAny_of_primitive hname, if_neg Bool.false_ne_true, hname]

theorem convertAs_value (hd : d ≠ .null) (hname : ValueKind.ofTypeName? name = some kind) :
    convertAs dataSurroundings false d (.scalar name) =
      orDegrade dataSurroundings false d (.scalar name) isBuildKind (.construction name)
        (buildValue dataSurroundings kind d) := by
  obtain ⟨hany, hprimitive⟩ := primitive?_of_ofTypeName? hname
  rw [convertAs_scalar hd, convertScalar, hany, if_neg Bool.false_ne_true, hprimitive]
  simp only [constructor?_eq hname, ok_bind]

/-! ## Coercions -/

/-- What a value is coerced to is never nothing. -/
theorem coerce_ne_null (h : coerce dataSurroundings p d = .ok r) : r ≠ .null := by
  have hnumber (q : Number.Quantity) : Datum.ofQuantity q ≠ .null := by cases q <;> exact nofun
  unfold coerce at h
  rw [see_bind] at h
  cases p with
  | number =>
    obtain ⟨q, -, hlast⟩ := bind_eq_ok_iff.1 h
    obtain rfl := Except.ok.inj hlast
    exact hnumber q
  | float | int | boolean =>
    obtain ⟨a, -, hlast⟩ := bind_eq_ok_iff.1 h
    obtain rfl := Except.ok.inj hlast
    exact nofun
  | string =>
    cases d with
    | text s =>
      obtain rfl := Except.ok.inj h
      exact nofun
    | _ =>
      obtain ⟨a, -, hlast⟩ := bind_eq_ok_iff.1 h
      obtain rfl := Except.ok.inj hlast
      exact nofun

theorem coerce_number (d : Datum) :
    coerce dataSurroundings .number d = Datum.ofQuantity <$> d.toNumber := by
  have hcoerce : coerce dataSurroundings .number d =
      (do return Datum.ofQuantity (← lift d.toNumber)) := rfl
  rw [hcoerce, lift_eq]
  rfl

/-! ## Items and fields -/

/-- Converting a value to a list converts its items, if it has any. -/
theorem convertAs_array {V C : Type} {k : Surroundings (Except Fault) V C} {strict : Bool} {v : V}
    {items rs : List V} {element : TypeExpr} (hsee : k.see v = .ok d) (hnull : d ≠ .null)
    (hitems : listItems? k v = .ok (some items))
    (hrs : items.mapM (fun item => convertAs k strict item element) = .ok rs) :
    convertAs k strict v (.array element) = k.list rs := by
  rw [convertAs, hsee, ok_bind]
  split
  · exact absurd rfl hnull
  · rw [hitems, ok_bind]
    dsimp only
    rw [hrs, ok_bind]

theorem convertField_eq_ok_iff {source : FieldSource Datum} {f : String × TypeExpr}
    {e : String × Datum} :
    convertField dataSurroundings source f = .ok e ↔ ∃ v y, source.get dataSurroundings f.1 = .ok v ∧
      convertAs dataSurroundings false v f.2 = .ok y ∧ e = (f.1, y) := by
  rw [convertField, bind_eq_ok_iff]
  constructor
  · rintro ⟨v, hv, hrest⟩
    obtain ⟨y, hy, hpair⟩ := bind_eq_ok_iff.1 hrest
    exact ⟨v, y, hv, hy, (Except.ok.inj hpair).symm⟩
  · rintro ⟨v, y, hv, hy, rfl⟩
    exact ⟨v, hv, bind_eq_ok_iff.2 ⟨y, hy, rfl⟩⟩

end Conversion

end SceneBridge
