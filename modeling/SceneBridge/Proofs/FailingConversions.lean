import SceneBridge.Proofs.Outcome
import SceneBridge.Proofs.Overflow

/-!
# Conversions that fail

A value that does not fit passes through a conversion, and only a choice without a fitting
alternative is meant to make it fail. Here is when a conversion of data fails in fact: for
integers that no double holds and doubles that no integer holds, for a few texts and arrays
that cannot be taken apart, for members that cannot be read, and for choices. What members of
data hold is left open: a conversion meets whatever reading them comes to.
-/

namespace SceneBridge

/-- The type is a choice or has one among its parts. -/
inductive TypeExpr.HasChoice : TypeExpr → Prop
  | union (as : List TypeExpr) : HasChoice (.union as)
  | array {element : TypeExpr} (h : element.HasChoice) : HasChoice (.array element)
  | generic {name : String} {params : List TypeExpr} {t : TypeExpr} (hmem : t ∈ params)
    (h : t.HasChoice) : HasChoice (.generic name params)
  | record {fields : List (String × TypeExpr)} {key : String} {t : TypeExpr}
    (hmem : (key, t) ∈ fields) (h : t.HasChoice) : HasChoice (.record fields)

namespace Conversion

open Number

/-! ## Failures -/

/-- What reading a member of a datum by name comes to; nothing if there is none. -/
abbrev Look : Type :=
  Datum → String → Except Fault Datum

/-- The surroundings of data whose members are read by `look`. -/
def dataLooking (look : Look) : Surroundings (Except Fault) Datum ValueKind :=
  dataSurroundings.looking look

/-- Members are read as they are shown, which fails for one member of arrays without rows and
columns. -/
def lookShown : Look :=
  fun d name => do return (← d.readMember name).getD .null

theorem dataLooking_lookShown : dataLooking lookShown = dataSurroundings :=
  rfl

section Failures

variable (look : Look)

/-- The conversion of the datum returns. -/
def Returns (d : Datum) (t : TypeExpr) : Prop :=
  ∃ r, ((dataLooking look).convert false d t).1 = .ok r

/-- The datum has fields, and that of the key is `v`. -/
def HasField (d : Datum) (key : String) (v : Datum) : Prop :=
  ∃ source, fieldSource (dataLooking look) d = .ok (.ok source) ∧
    source.get (dataLooking look) key = .ok v

/-- The datum is an object, whose fields are its members. -/
def IsObject (d : Datum) : Prop :=
  fieldSource (dataLooking look) d = .ok (.ok (.attributes d))

/-- The conversion of some data returns `rs`. -/
def ReturnAll (parts : List (Datum × TypeExpr)) (rs : List Datum) : Prop :=
  parts.mapM (fun p => ((dataLooking look).convert false p.1 p.2).1) = .ok rs

end Failures

/-- The datum falls apart into `parts` for a constructor with the parameters. -/
def HasParts (d : Datum) (params : List TypeExpr) (parts : List (Datum × TypeExpr)) : Prop :=
  ∃ vs, genericParts? dataSurroundings d params.length = .ok (some vs) ∧ parts = vs.zip params

theorem HasParts.mem {d v : Datum} {params : List TypeExpr} {before after : List (Datum × TypeExpr)}
    {t : TypeExpr} (hd : HasParts d params (before ++ (v, t) :: after)) : t ∈ params := by
  obtain ⟨vs, -, hparts⟩ := hd
  have hpair : (v, t) ∈ vs.zip params := by
    rw [← hparts]
    simp
  exact (List.of_mem_zip hpair).2

/-- The conversion of the datum fails with the fault. -/
inductive Fails (look : Look) : Datum → TypeExpr → Fault → Prop
  /-- No double holds the integer. -/
  | float {d : Datum} {n : Int} (hd : d.toNumber = .ok (.whole n)) (hn : tooLarge ≤ n.natAbs) :
    Fails look d (.scalar "float") .intTooLarge
  /-- No integer holds the double. -/
  | int {d : Datum} {x : Float} (hd : d.toNumber = .ok (.real x)) (hx : IsInfinite x) :
    Fails look d (.scalar "int") .infiniteInt
  /-- The constructor of a numeric value reads an integer that no double holds. -/
  | value {d : Datum} {name : String} {kind : ValueKind} {qs : List Quantity}
    (hname : ValueKind.ofTypeName? name = some kind) (hd : d.components = .ok qs)
    (hcount : kind.takes qs.length = true) (hlarge : HasLarge qs) :
    Fails look d (.scalar name) .intTooLarge
  /-- An array without dimensions is no list. -/
  | point {cells : List ArrayCell} {element : TypeExpr} :
    Fails look (.array ⟨[], cells⟩) (.array element) .notIterable
  | item {d v : Datum} {before after : List Datum} {element : TypeExpr} {f : Fault}
    (hd : listItems? dataSurroundings d = .ok (some (before ++ v :: after)))
    (hbefore : ∀ b ∈ before, Returns look b element) (h : Fails look v element f) :
    Fails look d (.array element) f
  /-- The text holds an integer that is too long to be read. -/
  | longInteger {s : String} {fields : List (String × TypeExpr)}
    (hs : Json.read s.toList = .error .longInteger) :
    Fails look (.text s) (.record fields) .longInteger
  /-- The member of an object cannot be read. -/
  | member {d : Datum} {before after : List (String × TypeExpr)} {key : String} {t : TypeExpr}
    {f : Fault} (hbefore : ∀ b ∈ before, ∃ v, HasField look d b.1 v ∧ Returns look v b.2)
    (hd : IsObject look d) (h : look d key = .error f) :
    Fails look d (.record (before ++ (key, t) :: after)) f
  | field {d v : Datum} {before after : List (String × TypeExpr)} {key : String} {t : TypeExpr}
    {f : Fault} (hbefore : ∀ b ∈ before, ∃ v, HasField look d b.1 v ∧ Returns look v b.2)
    (hd : HasField look d key v) (h : Fails look v t f) :
    Fails look d (.record (before ++ (key, t) :: after)) f
  | part {d v : Datum} {name : String} {kind : ValueKind} {params : List TypeExpr}
    {before after : List (Datum × TypeExpr)} {t : TypeExpr} {f : Fault}
    (hname : ValueKind.ofTypeName? name = some kind)
    (hd : HasParts d params (before ++ (v, t) :: after))
    (hbefore : ∀ b ∈ before, Returns look b.1 b.2) (h : Fails look v t f) :
    Fails look d (.generic name params) f
  /-- The constructor of a numeric value is handed an integer that no double holds. -/
  | construct {d : Datum} {name : String} {kind : ValueKind} {params : List TypeExpr}
    {parts : List (Datum × TypeExpr)} {args : List Datum}
    (hname : ValueKind.ofTypeName? name = some kind) (hd : HasParts d params parts)
    (hparts : ReturnAll look parts args) (hargs : kind.construct args = .error .intTooLarge) :
    Fails look d (.generic name params) .intTooLarge
  /-- No alternative fits. The fault is another one if the datum has no written form. -/
  | choice {d : Datum} {as : List TypeExpr}
    (has : ∀ a ∈ as, ∀ r, ¬ Fits (dataLooking look) d a r) :
    Fails look d (.union as) (.about (.conversion · (as.map TypeExpr.format)) d)

/-- The coercion or the constructor that the type names fails with the fault. -/
inductive Refuses (look : Look) : Datum → TypeExpr → Fault → Prop
  | coercion {d : Datum} {name : String} {p : Primitive} {f : Fault}
    (hname : primitive? name = some p) (h : coerce dataSurroundings p d = .error f) :
    Refuses look d (.scalar name) f
  | value {d : Datum} {name : String} {kind : ValueKind} {f : Fault}
    (hname : ValueKind.ofTypeName? name = some kind)
    (h : buildValue dataSurroundings kind d = .error f) : Refuses look d (.scalar name) f
  | construct {d : Datum} {name : String} {kind : ValueKind} {params : List TypeExpr}
    {parts : List (Datum × TypeExpr)} {args : List Datum} {f : Fault}
    (hname : ValueKind.ofTypeName? name = some kind) (hd : HasParts d params parts)
    (hparts : ReturnAll look parts args) (h : kind.construct args = .error f) :
    Refuses look d (.generic name params) f

/-! ## Steps without notes -/

variable {look : Look}

theorem convert_eq_convertAs (traced : Bool) (d : Datum) (t : TypeExpr) :
    (d.convert traced t).1 = convertAs dataSurroundings false d t :=
  convert_fst (fun _ => rfl) traced d t

theorem convert_looking_eq (traced : Bool) (d : Datum) (t : TypeExpr) :
    ((dataLooking look).convert traced d t).1 = convertAs (dataLooking look) false d t :=
  convert_fst (fun _ => rfl) traced d t

theorem returns_iff {d : Datum} {t : TypeExpr} :
    Returns look d t ↔ ∃ r, convertAs (dataLooking look) false d t = .ok r := by
  rw [Returns, convert_looking_eq]

theorem orDegrade_eq_error_iff {d : Datum} {t : TypeExpr} {kinds : FaultKind → Bool}
    {reason : Fault → Reason} {x : Except Fault Datum} {f : Fault} :
    orDegrade dataSurroundings false d t kinds reason x = .error f ↔
      x = .error f ∧ kinds f.kind = false := by
  cases x with
  | ok r =>
    constructor
    · intro h
      cases h
    · rintro ⟨h, -⟩
      cases h
  | error g =>
    have heq : orDegrade dataSurroundings false d t kinds reason (.error g) =
        if kinds g.kind then .ok d else .error g := rfl
    rw [heq]
    cases hkinds : kinds g.kind with
    | true =>
      constructor
      · intro h
        cases h
      · rintro ⟨h, hf⟩
        cases h
        cases hkinds.symm.trans hf
    | false =>
      constructor
      · intro h
        cases h
        exact ⟨rfl, hkinds⟩
      · rintro ⟨h, -⟩
        cases h
        rfl

theorem orDegrade_of_error {d : Datum} {t : TypeExpr} {kinds : FaultKind → Bool}
    {reason : Fault → Reason} {x : Except Fault Datum} {f : Fault} (hx : x = .error f) :
    orDegrade dataSurroundings false d t kinds reason x = .ok d ∨
      orDegrade dataSurroundings false d t kinds reason x = .error f := by
  cases hkinds : kinds f.kind with
  | true =>
    refine .inl ?_
    rw [hx]
    exact if_pos hkinds
  | false => exact .inr (orDegrade_eq_error_iff.2 ⟨hx, hkinds⟩)

/-! ## Steps that read no members -/

theorem orDegrade_looking (strict : Bool) (d : Datum) (t : TypeExpr) :
    orDegrade (dataLooking look) strict d t = orDegrade dataSurroundings strict d t :=
  rfl

theorem listItems?_looking : listItems? (dataLooking look) = listItems? dataSurroundings :=
  rfl

theorem genericParts?_looking : genericParts? (dataLooking look) = genericParts? dataSurroundings :=
  rfl

theorem convertScalar_looking (strict : Bool) (d : Datum) (name : String) :
    convertScalar (dataLooking look) strict d name = convertScalar dataSurroundings strict d name :=
  rfl

/-! ## Names -/

/-- The name of a numeric value is no other name. -/
theorem primitive?_of_ofTypeName? {name : String} {kind : ValueKind}
    (hname : ValueKind.ofTypeName? name = some kind) :
    isAny name = false ∧ primitive? name = none := by
  -- The other names are a few fixed ones, which stand for no constructor.
  have hother (other : String) (hnone : ValueKind.ofTypeName? other = none) : name ≠ other := by
    intro h
    rw [h, hnone] at hname
    cases hname
  constructor
  · have h₁ := hother "any" (by decide +kernel)
    have h₂ := hother "*" (by decide +kernel)
    have h₃ := hother "mixed" (by decide +kernel)
    simp [isAny, h₁, h₂, h₃]
  · unfold primitive?
    split
    · exact absurd rfl (hother "number" (by decide +kernel))
    · exact absurd rfl (hother "float" (by decide +kernel))
    · exact absurd rfl (hother "int" (by decide +kernel))
    · exact absurd rfl (hother "boolean" (by decide +kernel))
    · exact absurd rfl (hother "bool" (by decide +kernel))
    · exact absurd rfl (hother "string" (by decide +kernel))
    · exact absurd rfl (hother "str" (by decide +kernel))
    · rfl

theorem constructor?_eq {name : String} {found : Option ValueKind}
    (hname : ValueKind.ofTypeName? name = found) :
    dataSurroundings.constructor? name = .ok found :=
  congrArg Except.ok hname

theorem primitive?_eq_float_iff {name : String} : primitive? name = some .float ↔ name = "float" := by
  constructor
  · unfold primitive?
    split <;> simp
  · rintro rfl
    rfl

theorem primitive?_eq_int_iff {name : String} : primitive? name = some .int ↔ name = "int" := by
  constructor
  · unfold primitive?
    split <;> simp
  · rintro rfl
    rfl

theorem convertScalar_eq_error_iff {d : Datum} {name : String} {f : Fault} :
    convertScalar dataSurroundings false d name = .error f ↔
      (name = "float" ∧ f = .intTooLarge ∧
        ∃ n, d.toNumber = .ok (.whole n) ∧ tooLarge ≤ n.natAbs) ∨
      (name = "int" ∧ f = .infiniteInt ∧ ∃ x, d.toNumber = .ok (.real x) ∧ IsInfinite x) ∨
      ∃ kind, ValueKind.ofTypeName? name = some kind ∧ f = .intTooLarge ∧
        ∃ qs, d.components = .ok qs ∧ kind.takes qs.length = true ∧ HasLarge qs := by
  rw [convertScalar, ← primitive?_eq_float_iff, ← primitive?_eq_int_iff]
  cases hany : isAny name with
  | true =>
    rw [if_pos rfl]
    refine iff_of_false (ok_ne_error _ _) ?_
    rintro (⟨hname, -⟩ | ⟨hname, -⟩ | ⟨kind, hname, -⟩)
    · obtain rfl := primitive?_eq_float_iff.1 hname
      cases hany
    · obtain rfl := primitive?_eq_int_iff.1 hname
      cases hany
    · cases (primitive?_of_ofTypeName? hname).1.symm.trans hany
  | false =>
    rw [if_neg Bool.false_ne_true]
    cases hprimitive : primitive? name with
    | some p =>
      have hnone (kind : ValueKind) : ValueKind.ofTypeName? name ≠ some kind := by
        intro hname
        cases (primitive?_of_ofTypeName? hname).2.symm.trans hprimitive
      dsimp only
      rw [orDegrade_eq_error_iff, coerce_eq_error_iff]
      simp only [Option.some.injEq, hnone, false_and, exists_false, or_false]
    | none =>
      simp only [constructor?_eq rfl, reduceCtorEq, false_and, false_or]
      cases hname : ValueKind.ofTypeName? name with
      | none =>
        refine iff_of_false (ok_ne_error _ _) ?_
        rintro ⟨kind, hkind, -⟩
        cases hkind
      | some kind =>
        simp only [Option.some.injEq, exists_eq_left']
        rw [← buildValue_eq_error_iff]
        exact orDegrade_eq_error_iff

/-! ## Parts -/

theorem collect_ne_error {α : Type} (g : α → Datum) (as : List α) (f : Fault) :
    (do return some (← as.mapM fun a => dataSurroundings.ofDatum (g a))) ≠
      (.error f : Except Fault (Option (List Datum))) := by
  have hcollect : (as.mapM fun a => dataSurroundings.ofDatum (g a)) = .ok (as.map g) :=
    List.mapM_pure
  rw [hcollect]
  exact ok_ne_error _ _

theorem listItems?_eq_error_iff {d : Datum} {f : Fault} :
    listItems? dataSurroundings d = .error f ↔
      f = .notIterable ∧ ∃ cells, d = .array ⟨[], cells⟩ := by
  cases d with
  | text s => exact iff_of_false (collect_ne_error (fun p => .text (String.ofList p)) _ f) (by simp)
  | array a =>
    obtain ⟨shape, cells⟩ := a
    cases shape with
    | nil =>
      constructor
      · intro h
        cases h
        exact ⟨rfl, cells, rfl⟩
      · rintro ⟨rfl, -⟩
        rfl
    | cons n shape => exact iff_of_false (collect_ne_error id _ f) (by simp)
  | _ => exact iff_of_false (ok_ne_error _ _) (by simp)

theorem fieldSource_eq_error_iff {d : Datum} {f : Fault} :
    fieldSource (dataLooking look) d = .error f ↔
      f = .longInteger ∧ ∃ s, d = .text s ∧ Json.read s.toList = .error .longInteger := by
  cases d with
  | text s =>
    have hsee : (dataLooking look).see (.text s) = .ok (.text s) := rfl
    simp only [fieldSource, hsee, ok_bind, Datum.text.injEq, exists_eq_left']
    cases hread : Json.read s.toList with
    | error complaint =>
      cases complaint with
      | at_ c i => exact iff_of_false (ok_ne_error _ _) (by simp)
      | longInteger =>
        constructor
        · intro h
          cases h
          exact ⟨rfl, rfl⟩
        · rintro ⟨rfl, -⟩
          rfl
    -- A text that can be read is a record or is let pass.
    | ok e => cases e <;> exact iff_of_false (ok_ne_error _ _) (by simp)
  | _ => exact iff_of_false (ok_ne_error _ _) (by simp)

/-- Of all fields, only the members of objects may not be read. -/
theorem get_eq_error_iff {source : FieldSource Datum} {key : String} {f : Fault} :
    source.get (dataLooking look) key = .error f ↔
      ∃ v, source = .attributes v ∧ look v key = .error f := by
  cases source with
  | entries es =>
    rw [FieldSource.get]
    split <;> exact iff_of_false (ok_ne_error _ _) (by simp)
  | data es => exact iff_of_false (ok_ne_error _ _) (by simp)
  | attributes v => simp [FieldSource.get, dataLooking, Surroundings.looking]

theorem genericParts?_ne_error (d : Datum) (n : Nat) (f : Fault) :
    genericParts? dataSurroundings d n ≠ .error f := by
  cases d with
  | text s => exact collect_ne_error (fun p => .text (String.ofList p)) _ f
  | array a => exact collect_ne_error cellItem _ f
  | _ => exact ok_ne_error _ _

theorem convertParts_eq_mapM {V C : Type} (k : Surroundings (Except Fault) V C) (vs : List V)
    (params : List TypeExpr) : convertParts k false vs params =
      (vs.zip params).mapM fun p => convertAs k false p.1 p.2 := by
  induction params generalizing vs with
  | nil => rw [convertParts, List.zip_nil_right, List.mapM_nil]
  | cons t params ih =>
    cases vs with
    | nil => rw [convertParts, List.zip_nil_left, List.mapM_nil]
    | cons v vs => rw [convertParts, List.zip_cons_cons, List.mapM_cons, ih]

/-- A choice fails if all alternatives fail when nothing may pass. -/
theorem convertFirst_eq_error_iff {d : Datum} {names : List String} {as : List TypeExpr} {f : Fault} :
    convertFirst (dataLooking look) d names as = .error f ↔
      f = .about (.conversion · names) d ∧ ∀ a ∈ as, ∀ r, ¬ Fits (dataLooking look) d a r := by
  induction as with
  | nil =>
    have hthrow : convertFirst (dataLooking look) d names [] =
        .error (.about (.conversion · names) d) := by
      rw [convertFirst]
      rfl
    rw [hthrow]
    constructor
    · intro h
      cases h
      exact ⟨rfl, List.forall_mem_nil _⟩
    · rintro ⟨rfl, -⟩
      rfl
  | cons a as ih =>
    have hfits (r : Datum) : convertAs (dataLooking look) true d a = .ok r ↔
        Fits (dataLooking look) d a r := convertAs_strict_eq_ok_iff fun _ => rfl
    rw [convertFirst, List.forall_mem_cons]
    cases ha : convertAs (dataLooking look) true d a with
    | ok r =>
      refine iff_of_false (ok_ne_error _ _) ?_
      rintro ⟨-, hnone, -⟩
      exact hnone r ((hfits r).1 ha)
    | error g =>
      -- The strict conversion fails, so that the alternative does not fit.
      have hnone : ∀ r, ¬ Fits (dataLooking look) d a r := by
        intro r hr
        cases ha.symm.trans ((hfits r).2 hr)
      rw [and_iff_right hnone, ← ih]
      rfl

/-! ## One step into a type -/

theorem see_bind {α : Type} (d : Datum) (g : Datum → Except Fault α) :
    dataSurroundings.see d >>= g = g d :=
  rfl

theorem see_bind_looking {α : Type} (d : Datum) (g : Datum → Except Fault α) :
    (dataLooking look).see d >>= g = g d :=
  rfl

theorem convertAs_scalar_eq_error_iff {d : Datum} {name : String} {f : Fault} :
    convertAs (dataLooking look) false d (.scalar name) = .error f ↔
      (name = "float" ∧ f = .intTooLarge ∧
        ∃ n, d.toNumber = .ok (.whole n) ∧ tooLarge ≤ n.natAbs) ∨
      (name = "int" ∧ f = .infiniteInt ∧ ∃ x, d.toNumber = .ok (.real x) ∧ IsInfinite x) ∨
      ∃ kind, ValueKind.ofTypeName? name = some kind ∧ f = .intTooLarge ∧
        ∃ qs, d.components = .ok qs ∧ kind.takes qs.length = true ∧ HasLarge qs := by
  rw [convertAs, see_bind_looking, convertScalar_looking, ← convertScalar_eq_error_iff]
  cases d with
  | null =>
    -- Nothing is returned as it is. It is no number and has no components.
    refine iff_of_false (ok_ne_error _ _) ?_
    rw [convertScalar_eq_error_iff]
    rintro (⟨-, -, n, hn, -⟩ | ⟨-, -, x, hx, -⟩ | ⟨kind, -, -, qs, hqs, -⟩)
    · cases hn
    · cases hx
    · cases hqs
  | _ => exact Iff.rfl

theorem convertAs_array_eq_error_iff {d : Datum} {element : TypeExpr} {f : Fault} :
    convertAs (dataLooking look) false d (.array element) = .error f ↔
      (f = .notIterable ∧ ∃ cells, d = .array ⟨[], cells⟩) ∨
      ∃ before v after, listItems? dataSurroundings d = .ok (some (before ++ v :: after)) ∧
        (∀ b ∈ before, Returns look b element) ∧
        convertAs (dataLooking look) false v element = .error f := by
  rw [convertAs, see_bind_looking, listItems?_looking]
  -- Nothing is returned as it is, and has no items.
  split
  · refine iff_of_false (ok_ne_error _ _) ?_
    rintro (⟨-, cells, hcells⟩ | ⟨before, v, after, hitems, -⟩)
    · cases hcells
    · cases hitems
  · rw [bind_eq_error_iff, listItems?_eq_error_iff]
    refine or_congr_right ?_
    constructor
    · rintro ⟨items, hitems, hfault⟩
      cases items with
      | none => cases hfault
      | some items =>
        obtain hfault | ⟨vs, -, hlist⟩ := bind_eq_error_iff.1 hfault
        · obtain ⟨before, v, after, rfl, hbefore, hv⟩ := mapM_eq_error_iff.1 hfault
          exact ⟨before, v, after, hitems, fun b hb => returns_iff.2 (hbefore b hb), hv⟩
        · cases hlist
    · rintro ⟨before, v, after, hitems, hbefore, hv⟩
      refine ⟨_, hitems, bind_eq_error_iff.2 (.inl ?_)⟩
      exact mapM_eq_error_iff.2 ⟨before, v, after, rfl, fun b hb => returns_iff.1 (hbefore b hb), hv⟩

theorem eq_of_attributes {d v : Datum}
    (hd : fieldSource (dataLooking look) d = .ok (.ok (.attributes v))) : d = v := by
  cases d with
  | text s =>
    rw [fieldSource, see_bind_looking] at hd
    dsimp only at hd
    split at hd <;> cases hd
  | null => cases hd
  | record es => cases hd
  | _ =>
    cases hd
    rfl

section Field

variable {source : FieldSource Datum} {field : String × TypeExpr}

/-- The conversion of one field. -/
def convertField {V C : Type} (k : Surroundings (Except Fault) V C) (source : FieldSource V)
    (field : String × TypeExpr) : Except Fault (String × V) := do
  let v ← source.get k field.1
  let r ← convertAs k false v field.2
  return (field.1, r)

theorem convertFields_eq_mapM {V C : Type} (k : Surroundings (Except Fault) V C)
    (source : FieldSource V) (fields : List (String × TypeExpr)) :
    convertFields k false source fields = fields.mapM (convertField k source) := by
  induction fields with
  | nil => rw [convertFields, List.mapM_nil]
  | cons field fields ih =>
    rw [convertFields, List.mapM_cons, ih]
    simp only [convertField, bind_assoc, pure_bind]

theorem convertField_returns_iff :
    (∃ p, convertField (dataLooking look) source field = .ok p) ↔
      ∃ v, source.get (dataLooking look) field.1 = .ok v ∧ Returns look v field.2 := by
  simp only [returns_iff]
  constructor
  · rintro ⟨p, hp⟩
    obtain ⟨v, hv, hrest⟩ := bind_eq_ok_iff.1 hp
    obtain ⟨r, hr, -⟩ := bind_eq_ok_iff.1 hrest
    exact ⟨v, hv, r, hr⟩
  · rintro ⟨v, hv, r, hr⟩
    exact ⟨(field.1, r), bind_eq_ok_iff.2 ⟨v, hv, bind_eq_ok_iff.2 ⟨r, hr, rfl⟩⟩⟩

theorem convertField_eq_error_iff {f : Fault} :
    convertField (dataLooking look) source field = .error f ↔
      (∃ v, source = .attributes v ∧ look v field.1 = .error f) ∨
      ∃ v, source.get (dataLooking look) field.1 = .ok v ∧
        convertAs (dataLooking look) false v field.2 = .error f := by
  rw [convertField, bind_eq_error_iff, get_eq_error_iff]
  refine or_congr_right (exists_congr fun v => and_congr_right fun _ => ?_)
  rw [bind_eq_error_iff]
  exact or_iff_left fun ⟨_, _, h⟩ => ok_ne_error _ _ h

end Field

theorem convertAs_record_eq_error_iff {d : Datum} {fields : List (String × TypeExpr)} {f : Fault} :
    convertAs (dataLooking look) false d (.record fields) = .error f ↔
      (f = .longInteger ∧ ∃ s, d = .text s ∧ Json.read s.toList = .error .longInteger) ∨
      ∃ before key t after, fields = before ++ (key, t) :: after ∧
        (∀ b ∈ before, ∃ v, HasField look d b.1 v ∧ Returns look v b.2) ∧
        ((IsObject look d ∧ look d key = .error f) ∨
          ∃ v, HasField look d key v ∧ convertAs (dataLooking look) false v t = .error f) := by
  rw [convertAs, bind_eq_error_iff, fieldSource_eq_error_iff]
  refine or_congr_right ?_
  -- Either the text cannot be read, or some field is the first to fail.
  -- All fields are read from the same source.
  have hfields {source : FieldSource Datum}
      (hsource : fieldSource (dataLooking look) d = .ok (.ok source)) :
      convertFields (dataLooking look) false source fields = .error f ↔
        ∃ before key t after, fields = before ++ (key, t) :: after ∧
          (∀ b ∈ before, ∃ v, HasField look d b.1 v ∧ Returns look v b.2) ∧
          ((IsObject look d ∧ look d key = .error f) ∨
            ∃ v, HasField look d key v ∧ convertAs (dataLooking look) false v t = .error f) := by
    have hhas (key : String) (v : Datum) :
        HasField look d key v ↔ source.get (dataLooking look) key = .ok v := by
      constructor
      · rintro ⟨other, hother, hv⟩
        rw [hsource] at hother
        cases hother
        exact hv
      · intro hv
        exact ⟨source, hsource, hv⟩
    have hobject (key : String) : (∃ v, source = .attributes v ∧ look v key = .error f) ↔
        IsObject look d ∧ look d key = .error f := by
      constructor
      · rintro ⟨v, rfl, hv⟩
        obtain rfl := eq_of_attributes hsource
        exact ⟨hsource, hv⟩
      · rintro ⟨hobject, hv⟩
        cases hsource.symm.trans hobject
        exact ⟨d, rfl, hv⟩
    rw [convertFields_eq_mapM, mapM_eq_error_iff]
    simp only [convertField_returns_iff, convertField_eq_error_iff, hhas, hobject]
    simp only [Prod.exists]
  constructor
  · rintro ⟨outcome, hsource, hfault⟩
    cases outcome with
    | error reason => cases hfault
    | ok source =>
      refine (hfields hsource).1 ?_
      obtain h | ⟨es, -, hrecord⟩ := bind_eq_error_iff.1 hfault
      · exact h
      · cases hrecord
  · intro h
    have hsource : ∃ source, fieldSource (dataLooking look) d = .ok (.ok source) := by
      obtain ⟨before, key, t, after, -, -, ⟨hobject, -⟩ | ⟨v, ⟨source, hsource, -⟩, -⟩⟩ := h
      · exact ⟨_, hobject⟩
      · exact ⟨source, hsource⟩
    obtain ⟨source, hsource⟩ := hsource
    exact ⟨_, hsource, bind_eq_error_iff.2 (.inl ((hfields hsource).2 h))⟩

theorem construct_escapes_iff {kind : ValueKind} {args : List Datum} {f : Fault} :
    kind.construct args = .error f ∧ isBuildKind f.kind = false ↔
      f = .intTooLarge ∧ kind.construct args = .error .intTooLarge := by
  constructor
  · rintro ⟨hfault, hkind⟩
    rcases kind.construct_failsOnly args f hfault with hpasses | rfl
    · cases hpasses.symm.trans hkind
    · exact ⟨rfl, hfault⟩
  · rintro ⟨rfl, hfault⟩
    exact ⟨hfault, rfl⟩

/-- The parts fail one after another, or the constructor that is handed all of them does. -/
def PartsFail (look : Look) (kind : ValueKind) (parts : List (Datum × TypeExpr)) (f : Fault) : Prop :=
  (∃ before v t after, parts = before ++ (v, t) :: after ∧
    (∀ b ∈ before, Returns look b.1 b.2) ∧ convertAs (dataLooking look) false v t = .error f) ∨
  ∃ args, parts.mapM (fun p => convertAs (dataLooking look) false p.1 p.2) = .ok args ∧
    f = .intTooLarge ∧ kind.construct args = .error .intTooLarge

theorem partsFail_iff {kind : ValueKind} {d : Datum} {t : TypeExpr} {reason : Fault → Reason}
    {vs : List Datum} {params : List TypeExpr} {f : Fault} :
    (do
      let args ← convertParts (dataLooking look) false vs params
      orDegrade (dataLooking look) false d t isBuildKind reason ((dataLooking look).build kind args)) =
        .error f ↔ PartsFail look kind (vs.zip params) f := by
  have hbuild (args : List Datum) :
      orDegrade (dataLooking look) false d t isBuildKind reason ((dataLooking look).build kind args) =
        .error f ↔ f = .intTooLarge ∧ kind.construct args = .error .intTooLarge := by
    rw [orDegrade_looking, orDegrade_eq_error_iff, ← construct_escapes_iff]
    exact and_congr_left fun _ => build_eq_error_iff
  rw [bind_eq_error_iff, convertParts_eq_mapM, PartsFail, mapM_eq_error_iff]
  simp only [hbuild, returns_iff, Prod.exists]

/-- What falls apart is handed to the constructor part by part. -/
theorem convertAs_generic_looking {d : Datum} {name : String} {kind : ValueKind}
    {params : List TypeExpr} {vs : List Datum} (hname : ValueKind.ofTypeName? name = some kind)
    (hvs : genericParts? dataSurroundings d params.length = .ok (some vs)) :
    convertAs (dataLooking look) false d (.generic name params) = (do
      let args ← convertParts (dataLooking look) false vs params
      orDegrade (dataLooking look) false d (.generic name params) isBuildKind (.construction name)
        ((dataLooking look).build kind args)) := by
  have hother : (dataLooking look).accepts kind d = .ok false := by
    cases d with
    | value who kind' values => cases hvs
    | _ => rfl
  rw [convertAs, see_bind_looking]
  split
  · cases hvs
  · have hfound : (dataLooking look).constructor? name = .ok (some kind) := constructor?_eq hname
    rw [genericParts?_looking]
    simp only [hfound, ok_bind, hother, hvs, Bool.false_eq_true, if_false]

theorem convertAs_generic_eq {d : Datum} {name : String} {kind : ValueKind}
    {params : List TypeExpr} {vs : List Datum} (hname : ValueKind.ofTypeName? name = some kind)
    (hvs : genericParts? dataSurroundings d params.length = .ok (some vs)) :
    convertAs dataSurroundings false d (.generic name params) = (do
      let args ← convertParts dataSurroundings false vs params
      orDegrade dataSurroundings false d (.generic name params) isBuildKind (.construction name)
        (dataSurroundings.build kind args)) := by
  rw [← dataLooking_lookShown]
  exact convertAs_generic_looking hname hvs

theorem convertAs_generic_eq_error_iff {d : Datum} {name : String} {params : List TypeExpr}
    {f : Fault} :
    convertAs (dataLooking look) false d (.generic name params) = .error f ↔
      ∃ kind parts, ValueKind.ofTypeName? name = some kind ∧ HasParts d params parts ∧
        PartsFail look kind parts f := by
  constructor
  · intro h
    rw [convertAs, see_bind_looking] at h
    split at h
    · cases h
    · obtain hfind | ⟨found, hfound, h⟩ := bind_eq_error_iff.1 h
      · cases hfind
      · cases found with
        | none => cases h
        | some kind =>
          obtain haccepts | ⟨known, -, h⟩ := bind_eq_error_iff.1 h
          · cases d <;> cases haccepts
          · cases known with
            | true => cases h
            | false =>
              obtain hparts | ⟨vs?, hvs, h⟩ := bind_eq_error_iff.1 h
              · exact absurd hparts (genericParts?_ne_error d _ f)
              · cases vs? with
                | none => cases h
                | some vs =>
                  exact ⟨kind, _, Except.ok.inj hfound, ⟨vs, hvs, rfl⟩, partsFail_iff.1 h⟩
  · rintro ⟨kind, parts, hname, ⟨vs, hvs, rfl⟩, hfail⟩
    rw [convertAs_generic_looking hname hvs]
    exact partsFail_iff.2 hfail

theorem convertAs_union_eq_error_iff {d : Datum} {as : List TypeExpr} {f : Fault} :
    convertAs (dataLooking look) false d (.union as) = .error f ↔
      f = .about (.conversion · (as.map TypeExpr.format)) d ∧
        ∀ a ∈ as, ∀ r, ¬ Fits (dataLooking look) d a r := by
  rw [convertAs, convertFirst_eq_error_iff]

/-! ## All types -/

theorem fails_of_convertAs {d : Datum} {t : TypeExpr} {f : Fault}
    (h : convertAs (dataLooking look) false d t = .error f) : Fails look d t f := by
  induction t generalizing d with
  | scalar name =>
    rcases convertAs_scalar_eq_error_iff.1 h with
      ⟨rfl, rfl, n, hn, hsize⟩ | ⟨rfl, rfl, x, hx, hinfinite⟩ | ⟨kind, hname, rfl, qs, hqs, hlarge⟩
    · exact .float hn hsize
    · exact .int hx hinfinite
    · exact .value hname hqs hlarge.1 hlarge.2
  | array element ih =>
    rcases convertAs_array_eq_error_iff.1 h with
      ⟨rfl, cells, rfl⟩ | ⟨before, v, after, hitems, hbefore, hv⟩
    · exact .point
    · exact .item hitems hbefore (ih hv)
  | union as ih =>
    obtain ⟨rfl, hnone⟩ := convertAs_union_eq_error_iff.1 h
    exact .choice hnone
  | generic name params ih =>
    obtain ⟨kind, parts, hname, hparts, hfail⟩ := convertAs_generic_eq_error_iff.1 h
    -- The first part that fails has a type among the parameters.
    rcases hfail with ⟨before, v, t, after, rfl, hbefore, hv⟩ | ⟨args, hargs, rfl, hconstruct⟩
    · exact .part hname hparts hbefore (ih t hparts.mem hv)
    · refine .construct hname hparts ?_ hconstruct
      simpa only [ReturnAll, convert_looking_eq] using hargs
  | record fields ih =>
    rcases convertAs_record_eq_error_iff.1 h with
      ⟨rfl, s, rfl, hs⟩ | ⟨before, key, t, after, rfl, hbefore, hfield⟩
    · exact .longInteger hs
    · rcases hfield with ⟨hobject, hmember⟩ | ⟨v, hd, hv⟩
      · exact .member hbefore hobject hmember
      · exact .field hbefore hd (ih (key, t) (by simp) hv)

theorem Fails.convertAs {d : Datum} {t : TypeExpr} {f : Fault} (h : Fails look d t f) :
    convertAs (dataLooking look) false d t = .error f := by
  induction h with
  | float hd hn => exact convertAs_scalar_eq_error_iff.2 (.inl ⟨rfl, rfl, _, hd, hn⟩)
  | int hd hx => exact convertAs_scalar_eq_error_iff.2 (.inr (.inl ⟨rfl, rfl, _, hd, hx⟩))
  | value hname hd hcount hlarge =>
    exact convertAs_scalar_eq_error_iff.2 (.inr (.inr ⟨_, hname, rfl, _, hd, hcount, hlarge⟩))
  | point => exact convertAs_array_eq_error_iff.2 (.inl ⟨rfl, _, rfl⟩)
  | item hd hbefore h ih =>
    exact convertAs_array_eq_error_iff.2 (.inr ⟨_, _, _, hd, hbefore, ih⟩)
  | longInteger hs => exact convertAs_record_eq_error_iff.2 (.inl ⟨rfl, _, rfl, hs⟩)
  | member hbefore hd h =>
    exact convertAs_record_eq_error_iff.2 (.inr ⟨_, _, _, _, rfl, hbefore, .inl ⟨hd, h⟩⟩)
  | field hbefore hd h ih =>
    exact convertAs_record_eq_error_iff.2 (.inr ⟨_, _, _, _, rfl, hbefore, .inr ⟨_, hd, ih⟩⟩)
  | part hname hd hbefore h ih =>
    refine convertAs_generic_eq_error_iff.2 ⟨_, _, hname, hd, .inl ?_⟩
    exact ⟨_, _, _, _, rfl, hbefore, ih⟩
  | construct hname hd hparts hargs =>
    simp only [ReturnAll, convert_looking_eq] at hparts
    exact convertAs_generic_eq_error_iff.2 ⟨_, _, hname, hd, .inr ⟨_, hparts, rfl, hargs⟩⟩
  | choice has => exact convertAs_union_eq_error_iff.2 ⟨rfl, has⟩

/-- Where the coercion or the constructor fails, the datum passes, or the conversion fails alike. -/
theorem Refuses.passes {d : Datum} {t : TypeExpr} {f : Fault} (h : Refuses look d t f) :
    convertAs (dataLooking look) false d t = .ok d ∨
      convertAs (dataLooking look) false d t = .error f := by
  cases h with
  | coercion hname h =>
    rw [Conversion.convertAs, see_bind_looking]
    split
    · exact .inl rfl
    · rw [convertScalar, hname]
      split
      · exact .inl rfl
      · exact orDegrade_of_error h
  | value hname h =>
    rename_i name kind
    obtain ⟨hany, hprimitive⟩ := primitive?_of_ofTypeName? hname
    rw [Conversion.convertAs, see_bind_looking]
    split
    · exact .inl rfl
    · rw [convertScalar_looking, convertScalar, hany, hprimitive, if_neg Bool.false_ne_true]
      simp only [constructor?_eq hname]
      exact orDegrade_of_error h
  | construct hname hd hparts h =>
    obtain ⟨vs, hvs, rfl⟩ := hd
    simp only [ReturnAll, convert_looking_eq] at hparts
    rw [convertAs_generic_looking hname hvs, convertParts_eq_mapM, hparts]
    exact orDegrade_of_error (build_eq_error_iff.2 h)

/-! ## Faults -/

/-- The faults of conversions that do not tell of a choice without a fitting alternative, apart
from those of members. -/
def uncaught : List Fault :=
  [.intTooLarge, .infiniteInt, .longInteger, .notIterable, .unwritten]

/-- A fault that a conversion does not catch, and that does not tell of a choice without a fitting
alternative: one of `uncaught`, or that of a member. -/
def IsUncaught (look : Look) (f : Fault) : Prop :=
  f ∈ uncaught ∨ f.kind ≠ .conversion ∧ ∃ d name, look d name = .error f

theorem IsUncaught.kind {f : Fault} (hf : IsUncaught look f) : f.kind ≠ .conversion := by
  obtain hf | ⟨hkind, -⟩ := hf
  · simp only [uncaught, List.mem_cons, List.not_mem_nil, or_false] at hf
    rcases hf with rfl | rfl | rfl | rfl | rfl <;> decide
  · exact hkind

/-- A conversion fails with one of `uncaught`, as a choice does, or as reading a member does. -/
theorem Fails.cases_fault {d : Datum} {t : TypeExpr} {f : Fault} (h : Fails look d t f) :
    f ∈ uncaught ∨ (t.HasChoice ∧ ∃ e names, f = .conversion e names) ∨
      ∃ e name, look e name = .error f := by
  induction h with
  | float | int | value | construct | point | longInteger => simp [uncaught]
  | member hbefore hd h => exact .inr (.inr ⟨_, _, h⟩)
  | item hd hbefore h ih => exact ih.imp_right (.imp_left fun hf => ⟨.array hf.1, hf.2⟩)
  | field hbefore hd h ih =>
    exact ih.imp_right
      (.imp_left fun hf => ⟨.record (List.mem_append_right _ List.mem_cons_self) hf.1, hf.2⟩)
  | part hname hd hbefore h ih =>
    exact ih.imp_right (.imp_left fun hf => ⟨.generic hd.mem hf.1, hf.2⟩)
  | @choice d as has =>
    unfold Fault.about
    split
    · exact .inr (.inl ⟨.union as, d, _, rfl⟩)
    · simp [uncaught]

/-- A conversion fails exactly in the ways of `Fails`. As long as it meets no fault that it does
not catch, it returns or tells of a choice without a fitting alternative, and returns if there
is no choice, where reading a member does not tell of one. What a coercion or a constructor refuses
passes, or is a failure. -/
theorem convert_fails_iff (look : Look) (traced : Bool) (d : Datum) (t : TypeExpr) :
    let outcome := ((dataLooking look).convert traced d t).1
    (∀ f, outcome = .error f ↔ Fails look d t f) ∧
    ((∃ r, outcome = .ok r) ∨ (∃ f, outcome = .error f ∧ f.kind = .conversion) ↔
      ∀ f, IsUncaught look f → ¬ Fails look d t f) ∧
    (¬ t.HasChoice → (∀ e name f, look e name = .error f → f.kind ≠ .conversion) →
      ((∃ r, outcome = .ok r) ↔ ∀ f, IsUncaught look f → ¬ Fails look d t f)) ∧
    (∀ f, Refuses look d t f → outcome = .ok d ∨ Fails look d t f) := by
  intro outcome
  have hfails (f : Fault) : outcome = .error f ↔ Fails look d t f := by
    rw [show outcome = _ from convert_looking_eq traced d t]
    exact ⟨fails_of_convertAs, Fails.convertAs⟩
  have hreturns {r : Datum} (hr : outcome = .ok r) (f : Fault) : ¬ Fails look d t f := by
    intro h
    cases hr.symm.trans ((hfails f).2 h)
  -- Whatever is no uncaught fault tells of a choice, that of the type or that of a member.
  have houtcome (hnone : ∀ f, IsUncaught look f → ¬ Fails look d t f) :
      (∃ r, outcome = .ok r) ∨ ∃ f, outcome = .error f ∧ f.kind = .conversion ∧
        (t.HasChoice ∨ ∃ e name, look e name = .error f) := by
    cases hresult : outcome with
    | ok r => exact .inl ⟨r, rfl⟩
    | error f =>
      have h := (hfails f).1 hresult
      refine .inr ⟨f, rfl, ?_⟩
      obtain hf | ⟨hchoice, e, names, rfl⟩ | ⟨e, name, hmember⟩ := h.cases_fault
      · exact absurd h (hnone f (.inl hf))
      · exact ⟨rfl, .inl hchoice⟩
      · by_cases hkind : f.kind = .conversion
        · exact ⟨hkind, .inr ⟨e, name, hmember⟩⟩
        · exact absurd h (hnone f (.inr ⟨hkind, e, name, hmember⟩))
  refine ⟨hfails, ⟨?_, ?_⟩, ?_, ?_⟩
  · rintro (⟨r, hr⟩ | ⟨g, hg, hkind⟩) f hf h
    · exact hreturns hr f h
    · cases hg.symm.trans ((hfails f).2 h)
      exact hf.kind hkind
  · intro hnone
    exact (houtcome hnone).imp_right fun ⟨f, hf, hkind, _⟩ => ⟨f, hf, hkind⟩
  · intro hchoice hlook
    constructor
    · rintro ⟨r, hr⟩ f -
      exact hreturns hr f
    · intro hnone
      refine (houtcome hnone).resolve_right ?_
      rintro ⟨f, -, hkind, hunion | ⟨e, name, hmember⟩⟩
      · exact hchoice hunion
      · exact hlook e name f hmember hkind
  · intro f h
    rw [← hfails, show outcome = _ from convert_looking_eq traced d t]
    exact h.passes

/-- An integer that no double holds does not pass as a double. -/
theorem convert_of_huge_int :
    let v := Datum.int (Nat.pow 10 309)
    let t := TypeExpr.scalar "float"
    ¬ t.HasChoice ∧ (v.convert false t).1 = .error .intTooLarge ∧
      ¬ ∃ r, (v.convert false t).1 = .ok r := by
  intro v t
  have hlarge : tooLarge ≤ Nat.pow 10 309 := by decide +kernel
  have hchoice : ¬ (TypeExpr.scalar "float").HasChoice := nofun
  have hfails : Fails lookShown v t .intTooLarge := by
    refine .float rfl ?_
    rw [Int.natAbs_natCast]
    exact hlarge
  have herror : (v.convert false t).1 = .error .intTooLarge :=
    ((convert_fails_iff lookShown false v t).1 _).2 hfails
  refine ⟨hchoice, herror, ?_⟩
  rintro ⟨r, hr⟩
  cases hr.symm.trans herror

end Conversion

end SceneBridge
