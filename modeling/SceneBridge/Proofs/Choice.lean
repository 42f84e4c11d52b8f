import SceneBridge.Proofs.Paired
import SceneBridge.Proofs.Trace

/-!
# Strict and lenient conversion

A strict conversion returns what the lenient one returns without letting a value pass
through, and fails otherwise. A choice is therefore converted by the first of its
alternatives whose lenient conversion returns without letting anything pass.
-/

namespace SceneBridge.Conversion

open Trace Note TypeExpr

variable {V C : Type} (k : Surroundings (Except Fault) V C)

/-! ## Passing through -/

/-- Where the lenient conversion lets a value pass, the strict one fails. -/
theorem agrees_degrade (v : V) (t : TypeExpr) (reason : Reason) :
    Agrees (degrade k.recorded true v t reason) (degrade k.recorded false v t reason) := by
  have hlenient : Runs (degrade k.recorded false v t reason) (.ok v)
      ([] ++ [.passThrough v t reason]) :=
    (runs_note _).bind (runs_pure v)
  have hpassed : ¬ NonePassed [Note.passThrough v t reason] := by
    intro hnone
    cases hnone _ List.mem_cons_self
  have hsee : Runs (k.recorded.see v) (k.see v) [] := runs_lift (k.see v)
  rw [degrade, if_pos rfl]
  cases hv : k.see v with
  | error fault =>
    rw [hv] at hsee
    exact .fails (hsee.bind_error _) nonePassed_nil hlenient fun _ => hpassed
  | ok d =>
    rw [hv] at hsee
    exact .fails (hsee.bind (runs_throw _)) nonePassed_nil hlenient fun _ => hpassed

/-! ## All types -/

/-- The same computation on both sides, which lets nothing pass. -/
def SameSilent : Relator (Trace V) (Trace V) :=
  fun _ x y => x = y ∧ Agrees x x

theorem sameSilent_isPairing : IsPairing (SameSilent (V := V)) where
  pure a := ⟨rfl, .pure a⟩
  throw f := ⟨rfl, .throw f⟩
  bind := by
    rintro α β x _ f g ⟨rfl, hx⟩ hfg
    obtain rfl : f = g := funext fun a => (hfg a).1
    exact ⟨rfl, hx.bind fun a => (hfg a).2⟩
  tryCatch := by
    rintro α x _ f g ⟨rfl, hx⟩ hfg
    obtain rfl : f = g := funext fun fault => (hfg fault).1
    exact ⟨rfl, hx.tryCatch fun fault => (hfg fault).2⟩

theorem agrees_isLoosePairing : IsLoosePairing (SameSilent (V := V)) fun _ => Agrees where
  of_same := by
    rintro α x _ ⟨rfl, hx⟩
    exact hx
  bind := Agrees.bind

theorem recorded_isPaired : k.recorded.IsPaired SameSilent k.recorded where
  see v := ⟨rfl, .lift (k.see v)⟩
  ofDatum d := ⟨rfl, .lift (k.ofDatum d)⟩
  items? v := ⟨rfl, .lift (k.items? v)⟩
  entries? v := ⟨rfl, .lift (k.entries? v)⟩
  memberOf v name := ⟨rfl, .lift (k.memberOf v name)⟩
  textOf v := ⟨rfl, .lift (k.textOf v)⟩
  list vs := ⟨rfl, .lift (k.list vs)⟩
  record es := ⟨rfl, .lift (k.record es)⟩
  constructor? name := ⟨rfl, .lift (k.constructor? name)⟩
  layout c := ⟨rfl, .lift (k.layout c)⟩
  accepts c v := ⟨rfl, .lift (k.accepts c v)⟩
  build c vs := ⟨rfl, .lift (k.build c vs)⟩
  branchFailed t v f := by
    refine ⟨rfl, .of_runs (runs_note _) fun n hn => ?_⟩
    rw [List.mem_singleton.1 hn]
    rfl

/-- The strict conversion of a value agrees with the lenient one. -/
theorem agrees_convertAs (v : V) (t : TypeExpr) :
    Agrees (convertAs k.recorded true v t) (convertAs k.recorded false v t) :=
  loose_convertAs sameSilent_isPairing (recorded_isPaired k)
    (fun v t reason => ⟨rfl, (agrees_degrade k v t reason).left⟩) agrees_isLoosePairing
    (agrees_degrade k) v t

/-! ## Choices -/

/-- What a strict conversion ends in. -/
def strictly (v : V) (t : TypeExpr) : Except Fault V :=
  ((convertAs k.recorded true v t).run.run []).1

/-- The value becomes `r` by the type, and nothing passes through. -/
def Fits (v : V) (t : TypeExpr) (r : V) : Prop :=
  (k.convert false v t).1 = .ok r ∧ NonePassed (k.convert false v t).2

theorem runs_strictly (v : V) (t : TypeExpr) :
    ∃ notes, Runs (convertAs k.recorded true v t) (strictly k v t) notes := by
  obtain ⟨outcome, notes, hrun, -⟩ := (agrees_convertAs k v t).exists_runs
  have houtcome : strictly k v t = outcome := congrArg Prod.fst hrun.run_nil
  exact ⟨notes, houtcome ▸ hrun⟩

/-- A conversion as a whole ends like the conversion, and nothing more passes through. -/
theorem convert_eq {v : V} {t : TypeExpr} {outcome : Except Fault V} {notes : List (Note V)}
    (hrun : Runs (convertAs k.recorded false v t) outcome notes) (traced : Bool) :
    (k.convert traced v t).1 = outcome ∧
      (NonePassed (k.convert traced v t).2 ↔ NonePassed notes) := by
  have hconvert : ∃ more, NonePassed more ∧
      Runs (convert k.recorded traced v t) outcome (more ++ notes) := by
    cases outcome with
    | error f => exact ⟨[], nonePassed_nil, hrun.bind_error _⟩
    | ok r =>
      cases traced with
      | false => exact ⟨[], nonePassed_nil, hrun.bind (runs_pure r)⟩
      | true =>
        have hnote : Runs (do k.recorded.note (.converted v t r); return r) (.ok r)
            ([] ++ [.converted v t r]) := (runs_note _).bind (runs_pure r)
        refine ⟨_, ?_, hrun.bind hnote⟩
        intro n hn
        rw [List.mem_singleton.1 hn]
        rfl
  obtain ⟨more, hmore, hwhole⟩ := hconvert
  rw [Surroundings.convert, hwhole.run_nil]
  refine ⟨rfl, ?_⟩
  have hreverse : NonePassed (more ++ notes).reverse ↔ NonePassed (more ++ notes) := by
    simp only [NonePassed, List.mem_reverse]
  rw [hreverse, nonePassed_append]
  exact ⟨fun h => h.2, fun h => ⟨hmore, h⟩⟩

theorem strictly_eq_ok_iff (traced : Bool) (v : V) (t : TypeExpr) (r : V) :
    strictly k v t = .ok r ↔
      (k.convert traced v t).1 = .ok r ∧ NonePassed (k.convert traced v t).2 := by
  obtain ⟨outcome, notes, hrun⟩ := (agrees_convertAs k v t).exists_runs_right
  obtain ⟨houtcome, hnotes⟩ := convert_eq k hrun traced
  rw [houtcome, hnotes]
  exact (agrees_convertAs k v t).eq_ok_iff hrun r

/-- A value of an unknown type passes through. -/
theorem not_fits_unknown {v : V} {d : Datum} {name : String} (hv : k.see v = .ok d)
    (hd : d ≠ .null) (hany : isAny name = false) (hprimitive : primitive? name = none)
    (hunknown : k.constructor? name = .ok none) (r : V) : ¬ Fits k v (.scalar name) r := by
  intro hfits
  have hsee : Runs (k.recorded.see v) (.ok d) [] := hv ▸ runs_lift (k.see v)
  have hfind : Runs (k.recorded.constructor? name) (.ok none) [] :=
    hunknown ▸ runs_lift (k.constructor? name)
  have hpass : Runs (degrade k.recorded false v (.scalar name) (.unknownType name)) (.ok v)
      ([] ++ [.passThrough v (.scalar name) (.unknownType name)]) :=
    (runs_note _).bind (runs_pure v)
  have hscalar : Runs (convertScalar k.recorded false v name) (.ok v)
      [.passThrough v (.scalar name) (.unknownType name)] := by
    rw [convertScalar, hany, hprimitive]
    exact hfind.bind_silent hpass
  have hrun : Runs (convertAs k.recorded false v (.scalar name)) (.ok v)
      [.passThrough v (.scalar name) (.unknownType name)] := by
    rw [convertAs]
    refine hsee.bind_silent ?_
    cases d with
    | null => exact absurd rfl hd
    | _ => exact hscalar
  cases (convert_eq k hrun false).2.1 hfits.2 _ List.mem_cons_self

theorem runs_convertFirst_of_fits {v : V} (names : List String) {before after : List TypeExpr}
    {a : TypeExpr} {r : V} (hbefore : ∀ b ∈ before, ∀ r, strictly k v b ≠ .ok r)
    (ha : strictly k v a = .ok r) :
    ∃ notes, Runs (convertFirst k.recorded v names (before ++ a :: after)) (.ok r) notes := by
  induction before with
  | nil =>
    obtain ⟨notes, hrun⟩ := runs_strictly k v a
    rw [List.nil_append, convertFirst]
    exact ⟨notes, (ha ▸ hrun).uncaught _⟩
  | cons b before ih =>
    obtain ⟨notes, hrun⟩ := runs_strictly k v b
    obtain ⟨more, hrest⟩ := ih fun c hc => hbefore c (List.mem_cons_of_mem _ hc)
    rw [List.cons_append, convertFirst]
    cases hb : strictly k v b with
    | ok s => exact absurd hb (hbefore b List.mem_cons_self s)
    | error f => exact ⟨_, (hb ▸ hrun).caught ((runs_note _).bind hrest)⟩

theorem runs_convertFirst_of_none {v : V} {d : Datum} (hv : k.see v = .ok d) (names : List String)
    {as : List TypeExpr} (has : ∀ a ∈ as, ∀ r, strictly k v a ≠ .ok r) :
    ∃ notes, Runs (convertFirst k.recorded v names as)
      (.error (.about (.conversion · names) d)) notes := by
  induction as with
  | nil =>
    have hsee : Runs (k.recorded.see v) (.ok d) [] := hv ▸ runs_lift (k.see v)
    rw [convertFirst]
    exact ⟨_, hsee.bind (runs_throw _)⟩
  | cons a as ih =>
    obtain ⟨notes, hrun⟩ := runs_strictly k v a
    obtain ⟨more, hrest⟩ := ih fun b hb => has b (List.mem_cons_of_mem _ hb)
    rw [convertFirst]
    cases ha : strictly k v a with
    | ok s => exact absurd ha (has a List.mem_cons_self s)
    | error f => exact ⟨_, (ha ▸ hrun).caught ((runs_note _).bind hrest)⟩

/-- Strict and lenient conversion agree, and a choice is converted by its first alternative
that fits. Where none fits, the fault names the value and the alternatives, if the value has
a written form. -/
theorem strict_and_first_fit (traced : Bool) (v : V) :
    (∀ t r, strictly k v t = .ok r ↔
      (k.convert traced v t).1 = .ok r ∧ NonePassed (k.convert traced v t).2) ∧
    (∀ before a after r, (∀ b ∈ before, ∀ s, ¬ Fits k v b s) → Fits k v a r →
      (k.convert traced v (.union (before ++ a :: after))).1 = .ok r) ∧
    ∀ as d, (∀ a ∈ as, ∀ r, ¬ Fits k v a r) → k.see v = .ok d →
      (k.convert traced v (.union as)).1 =
        .error (if d.isWritable then .conversion d (as.map format) else .unwritten) := by
  refine ⟨strictly_eq_ok_iff k traced v, fun before a after r hbefore ha => ?_,
    fun as d has hv => ?_⟩
  -- The alternatives are tried strictly, which is to fit.
  · have hstrict : ∀ b ∈ before, ∀ s, strictly k v b ≠ .ok s := by
      intro b hb s hs
      exact hbefore b hb s ((strictly_eq_ok_iff k false v b s).1 hs)
    have hchoose := (strictly_eq_ok_iff k false v a r).2 ha
    obtain ⟨notes, hrun⟩ :=
      runs_convertFirst_of_fits k ((before ++ a :: after).map format) hstrict hchoose
    rw [← convertAs] at hrun
    exact (convert_eq k hrun traced).1
  · have hstrict : ∀ a ∈ as, ∀ r, strictly k v a ≠ .ok r := by
      intro a ha r hr
      exact has a ha r ((strictly_eq_ok_iff k false v a r).1 hr)
    obtain ⟨notes, hrun⟩ := runs_convertFirst_of_none k hv (as.map format) hstrict
    rw [← convertAs] at hrun
    exact (convert_eq k hrun traced).1

/-- An integer of too many digits for a written form. -/
theorem choice_of_huge_int :
    let v := Datum.int (Nat.pow 10 4300)
    (v.convert false (.union [.scalar "Foo", .scalar "Bar"])).1 = .error .unwritten := by
  intro v
  have hfoo : ValueKind.ofTypeName? "Foo" = none := by decide +kernel
  have hbar : ValueKind.ofTypeName? "Bar" = none := by decide +kernel
  -- Values of unknown types pass through, which is not to fit.
  have hnone : ∀ a ∈ [TypeExpr.scalar "Foo", .scalar "Bar"], ∀ r, ¬ Fits dataSurroundings v a r := by
    simp only [List.forall_mem_cons]
    exact ⟨not_fits_unknown _ rfl nofun (by decide) (by decide) (congrArg Except.ok hfoo),
      not_fits_unknown _ rfl nofun (by decide) (by decide) (congrArg Except.ok hbar), nofun⟩
  have hchoice := (strict_and_first_fit dataSurroundings false v).2.2 _ v hnone rfl
  have hwritable : v.isWritable = false := by decide +kernel
  rw [hwritable] at hchoice
  exact hchoice

end SceneBridge.Conversion
