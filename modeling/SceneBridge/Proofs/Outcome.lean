import SceneBridge.Proofs.Choice

/-!
# What a conversion ends in

Taking notes changes nothing about what a conversion ends in: with notes and without them
every step of it does the same.
-/

namespace SceneBridge.Conversion

open Trace

variable {V C : Type} {k : Surroundings (Except Fault) V C}

/-- The first computation ends in the second one, whatever notes it takes. -/
def EndsIn : Relator (Trace V) (Except Fault) :=
  fun _ x outcome => ∃ notes, Runs x outcome notes

theorem endsIn_isPairing : IsPairing (EndsIn (V := V)) where
  pure a := ⟨[], runs_pure a⟩
  throw f := ⟨[], runs_throw f⟩
  bind := by
    rintro α β x outcome f g ⟨notes, hx⟩ hfg
    cases outcome with
    | error fault => exact ⟨notes, hx.bind_error f⟩
    | ok a =>
      obtain ⟨more, hf⟩ := hfg a
      exact ⟨more ++ notes, hx.bind hf⟩
  tryCatch := by
    rintro α x outcome f g ⟨notes, hx⟩ hfg
    cases outcome with
    | ok a => exact ⟨notes, hx.uncaught f⟩
    | error fault =>
      obtain ⟨more, hf⟩ := hfg fault
      exact ⟨more ++ notes, hx.caught hf⟩

theorem recorded_endsIn (hnote : ∀ n, k.note n = pure ()) : k.recorded.IsPaired EndsIn k where
  see v := ⟨[], runs_lift (k.see v)⟩
  ofDatum d := ⟨[], runs_lift (k.ofDatum d)⟩
  items? v := ⟨[], runs_lift (k.items? v)⟩
  entries? v := ⟨[], runs_lift (k.entries? v)⟩
  memberOf v name := ⟨[], runs_lift (k.memberOf v name)⟩
  textOf v := ⟨[], runs_lift (k.textOf v)⟩
  list vs := ⟨[], runs_lift (k.list vs)⟩
  record es := ⟨[], runs_lift (k.record es)⟩
  constructor? name := ⟨[], runs_lift (k.constructor? name)⟩
  layout c := ⟨[], runs_lift (k.layout c)⟩
  accepts c v := ⟨[], runs_lift (k.accepts c v)⟩
  build c vs := ⟨[], runs_lift (k.build c vs)⟩
  branchFailed t v f := by
    rw [hnote]
    exact ⟨_, runs_note _⟩

theorem degrade_endsIn (hnote : ∀ n, k.note n = pure ()) (strict : Bool) (v : V) (t : TypeExpr)
    (reason : Reason) :
    EndsIn _ (degrade k.recorded strict v t reason) (degrade k strict v t reason) := by
  have hS := endsIn_isPairing (V := V)
  cases strict with
  | true => exact hS.bind ⟨[], runs_lift (k.see v)⟩ fun d => hS.throw _
  | false =>
    rw [degrade, degrade, hnote]
    exact hS.bind ⟨_, runs_note _⟩ fun _ => hS.pure v

/-- A conversion with notes ends in the conversion without. -/
theorem convertAs_endsIn (hnote : ∀ n, k.note n = pure ()) (strict : Bool) (v : V) (t : TypeExpr) :
    EndsIn _ (convertAs k.recorded strict v t) (convertAs k strict v t) :=
  loose_convertAs endsIn_isPairing (recorded_endsIn hnote) (degrade_endsIn hnote true)
    endsIn_isPairing.loose (degrade_endsIn hnote strict) v t

theorem convert_fst (hnote : ∀ n, k.note n = pure ()) (traced : Bool) (v : V) (t : TypeExpr) :
    (k.convert traced v t).1 = convertAs k false v t := by
  obtain ⟨notes, hrun⟩ := convertAs_endsIn hnote false v t
  exact (convert_eq k hrun traced).1

theorem convertAs_strict_eq_ok_iff (hnote : ∀ n, k.note n = pure ()) {v : V} {t : TypeExpr} {r : V} :
    convertAs k true v t = .ok r ↔ Fits k v t r := by
  obtain ⟨notes, hrun⟩ := convertAs_endsIn hnote true v t
  obtain ⟨more, hstrict⟩ := runs_strictly k v t
  have hsame : strictly k v t = convertAs k true v t := (hstrict.unique hrun).1
  rw [← hsame, strictly_eq_ok_iff k false]
  exact Iff.rfl

end SceneBridge.Conversion
