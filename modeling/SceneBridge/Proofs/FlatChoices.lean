import SceneBridge.Proofs.Outcome
import SceneBridge.Proofs.TypeText

/-!
# Choices among alternatives

The text of a type does not tell a choice among alternatives from further alternatives, so that
reading the text of a type flattens it. A value is converted to the flat type as it is to the type:
alternatives are tried in the order in which they are written, however they are nested, and each of
them is tried strictly.
-/

namespace SceneBridge.TypeExpr

open Text Brackets

/-! ## Flat types -/

/-- What a type offers to choose from: the alternatives of a choice, or just the type. -/
def choices : TypeExpr → List TypeExpr
  | .union as => as
  | t => [t]

mutual

/-- The type with the alternatives of inner choices among those of the outer ones. -/
def flat : TypeExpr → TypeExpr
  | .scalar name => .scalar name
  | .array element => .array (flat element)
  | .union as => .union (flatChoices as)
  | .generic name params => .generic name (flatAll params)
  | .record fields => .record (flatFields fields)

/-- All that some flat types offer to choose from. -/
def flatChoices : List TypeExpr → List TypeExpr
  | [] => []
  | a :: as => (flat a).choices ++ flatChoices as

/-- Some flat types. -/
def flatAll : List TypeExpr → List TypeExpr
  | [] => []
  | t :: ts => flat t :: flatAll ts

/-- Some fields with flat types. -/
def flatFields : List (String × TypeExpr) → List (String × TypeExpr)
  | [] => []
  | (key, t) :: fs => (key, flat t) :: flatFields fs

end

theorem flatChoices_eq (as : List TypeExpr) :
    flatChoices as = as.flatMap fun a => (flat a).choices := by
  induction as with
  | nil => rfl
  | cons a as ih => rw [flatChoices, ih, List.flatMap_cons]

theorem flatAll_eq (ts : List TypeExpr) : flatAll ts = ts.map flat := by
  induction ts with
  | nil => rfl
  | cons t ts ih => rw [flatAll, ih, List.map_cons]

theorem flatFields_eq (fs : List (String × TypeExpr)) :
    flatFields fs = fs.map fun f => (f.1, flat f.2) := by
  induction fs with
  | nil => rfl
  | cons f fs ih => rw [flatFields, ih, List.map_cons]

/-! ## The text of a flat type -/

variable {t : TypeExpr}

theorem choices_of_not_isUnion (h : t.isUnion = false) : t.choices = [t] := by
  cases t with
  | union as => cases h
  | _ => rfl

/-- The alternatives make up the text of a type. -/
theorem intercalate_choices (t : TypeExpr) : ['|'].intercalate (t.choices.map chars) = t.chars := by
  cases t with
  | union as => rw [choices, chars_union, charsOfAll_eq]
  | _ => simp [choices]

theorem intercalate_append {α : Type} {sep : List α} {as bs : List (List α)} (has : as ≠ [])
    (hbs : bs ≠ []) :
    sep.intercalate (as ++ bs) = sep.intercalate as ++ sep ++ sep.intercalate bs := by
  induction as with
  | nil => exact absurd rfl has
  | cons a as ih =>
    cases as with
    | nil =>
      cases bs with
      | nil => exact absurd rfl hbs
      | cons b bs => simp [List.intercalate_cons_cons]
    | cons a' as =>
      rw [List.cons_append, List.cons_append, List.intercalate_cons_cons, ← List.cons_append,
        ih (List.cons_ne_nil a' as), List.intercalate_cons_cons]
      simp

/-- Joining lists of texts one after another joins all of the texts. -/
theorem intercalate_flatMap {α β : Type} {sep : List α} {f : β → List (List α)} {bs : List β}
    (hf : ∀ b ∈ bs, f b ≠ []) :
    sep.intercalate (bs.flatMap f) = sep.intercalate (bs.map fun b => sep.intercalate (f b)) := by
  induction bs with
  | nil => rfl
  | cons b bs ih =>
    obtain ⟨hb, hbs⟩ := List.forall_mem_cons.1 hf
    rw [List.flatMap_cons, List.map_cons]
    cases bs with
    | nil => simp
    | cons b' bs =>
      have hrest : (b' :: bs).flatMap f ≠ [] := by
        rw [List.flatMap_cons]
        exact List.append_ne_nil_of_left_ne_nil (hbs b' List.mem_cons_self) _
      rw [intercalate_append hb hrest, ih hbs, List.map_cons, List.intercalate_cons_cons]

theorem length_le_flatMap {α β : Type} {f : β → List α} {bs : List β} (hf : ∀ b ∈ bs, f b ≠ []) :
    bs.length ≤ (bs.flatMap f).length := by
  induction bs with
  | nil => exact Nat.le_refl 0
  | cons b bs ih =>
    obtain ⟨hb, hbs⟩ := List.forall_mem_cons.1 hf
    have hpos : 0 < (f b).length := List.length_pos_iff.2 hb
    have hrest := ih hbs
    rw [List.flatMap_cons, List.length_append, List.length_cons]
    omega

namespace WellFormed

theorem choices_ne_nil (h : WellFormed false t) : t.choices ≠ [] := by
  cases h with
  | union hlength _ _ =>
    rintro rfl
    cases hlength
  | _ => exact List.cons_ne_nil _ _

theorem of_mem_choices (h : WellFormed false t) {a : TypeExpr} (ha : a ∈ t.choices) :
    a.isUnion = false ∧ WellFormed false a := by
  cases ht : t.isUnion with
  | false =>
    rw [choices_of_not_isUnion ht, List.mem_singleton] at ha
    rw [ha]
    exact ⟨ht, h⟩
  | true =>
    cases h with
    | union _ hflat has => exact ⟨hflat rfl a ha, has a ha⟩
    | _ => cases ht

/-- The flat form of a well-formed type is well-formed, with no choice among alternatives. -/
theorem flat (h : WellFormed true t) : WellFormed false t.flat := by
  induction h with
  | scalar hname => exact .scalar hname
  | array _ ih => exact .array ih
  | @union as hlength _ _ ih =>
    have hall : ∀ a ∈ flatChoices as, a.isUnion = false ∧ WellFormed false a := by
      intro a ha
      rw [flatChoices_eq] at ha
      obtain ⟨b, hb, hab⟩ := List.mem_flatMap.1 ha
      exact (ih b hb).of_mem_choices hab
    have hle : as.length ≤ (flatChoices as).length := by
      rw [flatChoices_eq]
      exact length_le_flatMap fun b hb => (ih b hb).choices_ne_nil
    exact .union (Nat.le_trans hlength hle) (fun _ a ha => (hall a ha).1) fun a ha => (hall a ha).2
  | @generic name params hname hne _ ih =>
    rw [TypeExpr.flat, flatAll_eq]
    exact .generic hname (by simpa using hne) (List.forall_mem_map.2 ih)
  | @record fields hdistinct hnames _ ih =>
    have hkeys : (flatFields fields).map (·.1) = fields.map (·.1) := by
      rw [flatFields_eq, List.map_map]
      rfl
    rw [TypeExpr.flat]
    refine .record (by rwa [hkeys]) ?_ ?_
    · rw [flatFields_eq]
      exact List.forall_mem_map.2 hnames
    · rw [flatFields_eq]
      exact List.forall_mem_map.2 ih

/-- A type and its flat form are written alike. -/
theorem chars_flat (h : WellFormed true t) : t.flat.chars = t.chars := by
  induction h with
  | scalar _ => rfl
  | array _ ih => rw [TypeExpr.flat, chars_array, chars_array, ih]
  | @union as _ _ has ih =>
    have hne : ∀ a ∈ as, a.flat.choices.map chars ≠ [] := by
      intro a ha
      simpa using (has a ha).flat.choices_ne_nil
    have hparts :
        (as.map fun a => ['|'].intercalate (a.flat.choices.map chars)) = as.map chars := by
      refine List.map_congr_left fun a ha => ?_
      rw [intercalate_choices, ih a ha]
    rw [TypeExpr.flat, chars_union, chars_union, charsOfAll_eq, charsOfAll_eq, flatChoices_eq,
      List.map_flatMap, intercalate_flatMap hne, hparts]
  | @generic name params _ _ _ ih =>
    have hparams : (params.map TypeExpr.flat).map chars = params.map chars := by
      rw [List.map_map]
      exact List.map_congr_left ih
    rw [TypeExpr.flat, chars_generic, chars_generic, charsOfAll_eq, charsOfAll_eq, flatAll_eq,
      hparams]
  | @record fields _ _ _ ih =>
    have hfields : (flatFields fields).map fieldChars = fields.map fieldChars := by
      rw [flatFields_eq, List.map_map]
      refine List.map_congr_left fun f hf => ?_
      rw [Function.comp_apply, fieldChars, fieldChars, ih f hf]
    rw [TypeExpr.flat, chars_record, chars_record, charsOfFields_eq, charsOfFields_eq, hfields]

/-- Reading the text of a type gives its flat form. -/
theorem ofText_format_flat (h : WellFormed true t) : ofText false t.format = t.flat := by
  rw [format, ← h.chars_flat, ← format, h.flat.ofText_format]

end WellFormed

end SceneBridge.TypeExpr

namespace SceneBridge.Conversion

open TypeExpr

variable {V C : Type} {k : Surroundings (Except Fault) V C} {strict : Bool} {v : V}

/-! ## Ends of conversions -/

/-- Two computations end alike: with the same value, with the same fault, or because no alternative
fits the same value, whichever alternatives there are. -/
inductive EndAlike {α : Type} : Except Fault α → Except Fault α → Prop
  | value (r : α) : EndAlike (.ok r) (.ok r)
  | conversion (value : Datum) (as bs : List String) :
      EndAlike (.error (.conversion value as)) (.error (.conversion value bs))
  | fault (f : Fault) : EndAlike (.error f) (.error f)

/-- What one of two computations returns, the other one returns too. -/
def ReturnAlike {α : Type} (x y : Except Fault α) : Prop :=
  x.toOption = y.toOption

theorem eq_isPairing : IsPairing (m := Except Fault) (n := Except Fault) fun _ => Eq where
  pure a := rfl
  throw f := rfl
  bind := by
    rintro α β x _ f g rfl hfg
    exact congrArg _ (funext hfg)
  tryCatch := by
    rintro α x _ f g rfl hfg
    exact congrArg _ (funext hfg)

theorem isPaired_self (k : Surroundings (Except Fault) V C) : k.IsPaired (fun _ => Eq) k where
  see _ := rfl
  ofDatum _ := rfl
  items? _ := rfl
  entries? _ := rfl
  memberOf _ _ := rfl
  textOf _ := rfl
  list _ := rfl
  record _ := rfl
  constructor? _ := rfl
  layout _ := rfl
  accepts _ _ := rfl
  build _ _ := rfl
  branchFailed _ _ _ := rfl

/-- A relation that overlooks which types a fault names. -/
structure Overlooks (k : Surroundings (Except Fault) V C) (strict : Bool)
    (Loose : Relator (Except Fault) (Except Fault)) : Prop where
  pairing : IsLoosePairing (fun _ => Eq) Loose
  degrade : ∀ v t u reason, Loose _ (degrade k strict v t reason) (degrade k strict v u reason)
  noneFits : ∀ d names names', Loose V (throw (.about (.conversion · names) d))
    (throw (.about (.conversion · names') d))

theorem overlooks_returnAlike (k : Surroundings (Except Fault) V C) :
    Overlooks k true fun _ => ReturnAlike where
  pairing := {
    of_same := congrArg _
    bind := by
      intro α β x y f g hxy hfg
      cases x with
      | ok a =>
        cases y with
        | ok b =>
          obtain rfl : a = b := Option.some.inj hxy
          exact hfg a
        | error f' => cases hxy
      | error f' =>
        cases y with
        | ok b => cases hxy
        | error g' => rfl }
  degrade v t u reason := by
    rw [degrade, degrade, if_pos rfl, if_pos rfl]
    cases k.see v <;> rfl
  noneFits _ _ _ := rfl

theorem overlooks_endAlike (hnote : ∀ n, k.note n = pure ()) :
    Overlooks k false fun _ => EndAlike where
  pairing := {
    of_same := by
      rintro α x _ rfl
      cases x with
      | ok r => exact .value r
      | error f => exact .fault f
    bind := by
      intro α β x y f g hxy hfg
      cases hxy with
      | value r => exact hfg r
      | conversion value as bs => exact .conversion value as bs
      | fault f => exact .fault f }
  degrade v t u reason := by
    rw [degrade, degrade, hnote, hnote]
    exact .value v
  noneFits d names names' := by
    rw [Fault.about, Fault.about]
    split
    · exact .conversion d names names'
    · exact .fault .unwritten

/-! ## Choices -/

/-- What the first alternative makes of the value that it fits. -/
def firstFit (k : Surroundings (Except Fault) V C) (v : V) (as : List TypeExpr) : Option V :=
  as.findSome? fun a => (convertAs k true v a).toOption

theorem firstFit_cons (a : TypeExpr) (as : List TypeExpr) :
    firstFit k v (a :: as) = (convertAs k true v a).toOption.or (firstFit k v as) := by
  rw [firstFit, List.findSome?_cons]
  cases (convertAs k true v a).toOption <;> rfl

theorem firstFit_append (as bs : List TypeExpr) :
    firstFit k v (as ++ bs) = (firstFit k v as).or (firstFit k v bs) :=
  List.findSome?_append

/-- A choice is converted by the first alternative that fits, and else names the alternatives. -/
theorem convertFirst_eq (hnote : ∀ n, k.note n = pure ()) (names : List String)
    (as : List TypeExpr) :
    convertFirst k v names as =
      match firstFit k v as with
      | some r => .ok r
      | none => (k.see v).bind fun d => throw (.about (.conversion · names) d) := by
  induction as with
  | nil => rfl
  | cons a as ih =>
    rw [convertFirst, firstFit_cons]
    cases ha : convertAs k true v a with
    | ok r => rfl
    | error f =>
      -- What the alternative fails with is noted and goes no further.
      have htry : tryCatchThe Fault (.error f : Except Fault V)
          (fun f => do k.note (.branchFailed a v f); convertFirst k v names as) =
          (do k.note (.branchFailed a v f); convertFirst k v names as) := rfl
      rw [htry, hnote, pure_bind, ih]
      rfl

/-- A type fits a value as the first of its choices does. -/
theorem firstFit_choices (hnote : ∀ n, k.note n = pure ()) (v : V) (t : TypeExpr) :
    firstFit k v t.choices = (convertAs k true v t).toOption := by
  cases ht : t.isUnion with
  | false =>
    rw [choices_of_not_isUnion ht, firstFit_cons]
    exact Option.or_none
  | true =>
    cases t with
    | union as =>
      rw [choices, convertAs, convertFirst_eq hnote]
      cases firstFit k v as with
      | some r => rfl
      | none => cases k.see v <;> rfl
    | _ => cases ht

theorem firstFit_flatChoices (hnote : ∀ n, k.note n = pure ()) {as : List TypeExpr}
    (has : ∀ a ∈ as, (convertAs k true v a).toOption = (convertAs k true v a.flat).toOption) :
    firstFit k v (flatChoices as) = firstFit k v as := by
  induction as with
  | nil => rfl
  | cons a as ih =>
    obtain ⟨ha, has⟩ := List.forall_mem_cons.1 has
    rw [flatChoices, firstFit_append, firstFit_choices hnote, ih has, ← ha, firstFit_cons]

/-! ## Conversion to flat types -/

/-- What overlooks the types in faults does not tell the conversion to a type from that to its flat
form. -/
theorem loose_flat (hnote : ∀ n, k.note n = pure ())
    {Loose : Relator (Except Fault) (Except Fault)} (h : Overlooks k strict Loose) (v : V)
    (t : TypeExpr) : Loose _ (convertAs k strict v t) (convertAs k strict v t.flat) := by
  have hS := eq_isPairing
  have hk := isPaired_self k
  induction t generalizing strict Loose v with
  | scalar name => exact loose_scalar hS hk h.pairing (h.degrade v _ _)
  | array element ih => exact loose_array hS hk h.pairing (h.degrade v _ _) (ih h)
  | union as ih =>
    -- Alternatives are strict, whatever the choice is.
    have hfit : firstFit k v (flatChoices as) = firstFit k v as :=
      firstFit_flatChoices hnote fun a ha => ih a ha (overlooks_returnAlike k) v
    rw [convertAs, flat, convertAs, convertFirst_eq hnote, convertFirst_eq hnote, hfit]
    cases firstFit k v as with
    | some r => exact h.pairing.of_same rfl
    | none => exact h.pairing.bind (h.pairing.of_same rfl) fun d => h.noneFits d _ _
  | generic name params ih =>
    rw [flat, flatAll_eq]
    refine loose_generic hS hk h.pairing (h.degrade v _ _) (List.forall₂_map_right_iff.2 ?_)
    exact List.forall₂_same.2 fun p hp => ih p hp h
  | record fields ih =>
    rw [flat, flatFields_eq]
    refine loose_record hS hk h.pairing (h.degrade v _ _) (List.forall₂_map_right_iff.2 ?_)
    exact List.forall₂_same.2 fun f hf => ⟨rfl, ih f hf h⟩

/-- The conversion to a type and the conversion to what is read from its text end alike, whatever
was read before. -/
theorem convert_read_format {t : TypeExpr} (ht : WellFormed true t) {m : Memo} (hm : m.Reached)
    (limit : Nat) (k : Surroundings (Except Fault) V C) (traced : Bool) (v : V) :
    EndAlike (k.convert traced v t).1
      (k.convert traced v (m.read limit false t.format).1).1 := by
  rw [hm.isFaithful.read_fst, ht.ofText_format_flat]
  -- A conversion keeps its notes itself, so that those of the surroundings may be left out.
  let silent : Surroundings (Except Fault) V C := { k with note := fun _ => pure () }
  have hsilent : k.convert = silent.convert := rfl
  have hnote : ∀ n, silent.note n = pure () := fun _ => rfl
  rw [hsilent, convert_fst hnote, convert_fst hnote]
  exact loose_flat hnote (overlooks_endAlike hnote) v t

theorem convert_read_format_nested :
    let t : TypeExpr := .array (.union [.scalar "int", .union [.scalar "boolean", .scalar "Foo"]])
    let m := (Memo.empty.read 8 true t.format).2
    EndAlike ((Datum.text "1, yes, x").convert false t).1
      ((Datum.text "1, yes, x").convert false (m.read 8 false t.format).1).1 := by
  intro t m
  have hm : m.Reached := .read .empty 8 true t.format
  have hinner : WellFormed true (.union [.scalar "boolean", .scalar "Foo"]) := by
    refine .union (by decide) (by decide) ?_
    simp only [List.forall_mem_cons]
    exact ⟨.scalar (by decide), .scalar (by decide), nofun⟩
  have ht : WellFormed true t := by
    refine .array (.union (by decide) (by decide) ?_)
    simp only [List.forall_mem_cons]
    exact ⟨.scalar (by decide), hinner, nofun⟩
  exact convert_read_format ht hm 8 dataSurroundings false (Datum.text "1, yes, x")

end SceneBridge.Conversion
