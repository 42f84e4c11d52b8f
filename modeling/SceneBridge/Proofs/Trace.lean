import SceneBridge.Convert.Plain

/-!
# Computations that take notes

What a computation ends in and which notes it takes depends on nothing that was noted
before. Two computations agree if the first returns what the second returns without
letting anything pass through, and if the first itself lets nothing pass.
-/

namespace SceneBridge

/-! ## Notes -/

/-- A note of a value that passed through. -/
def Note.isPassThrough {V : Type} : Note V → Bool
  | .passThrough .. => true
  | _ => false

/-- Nothing passed through. -/
def Note.NonePassed {V : Type} (notes : List (Note V)) : Prop :=
  ∀ n ∈ notes, n.isPassThrough = false

namespace Trace

open Note

variable {V α β : Type}

/-! ## Runs -/

/-- The computation ends in `outcome` and takes `notes`, whatever was noted before. -/
def Runs (x : Trace V α) (outcome : Except Fault α) (notes : List (Note V)) : Prop :=
  ∀ earlier, x.run.run earlier = (outcome, notes ++ earlier)

theorem runs_pure (a : α) : Runs (pure a : Trace V α) (.ok a) [] :=
  fun _ => rfl

theorem runs_throw (f : Fault) : Runs (throw f : Trace V α) (.error f) [] :=
  fun _ => rfl

theorem runs_lift (e : Except Fault α) : Runs (Conversion.lift e : Trace V α) e [] := by
  cases e with
  | ok a => exact runs_pure a
  | error f => exact runs_throw f

theorem runs_note (n : Note V) : Runs (modify (n :: ·) : Trace V Unit) (.ok ()) [n] :=
  fun _ => rfl

namespace Runs

variable {x : Trace V α} {f : α → Trace V β} {notes more : List (Note V)}

theorem bind {a : α} {outcome : Except Fault β} (hx : Runs x (.ok a) notes)
    (hf : Runs (f a) outcome more) : Runs (x >>= f) outcome (more ++ notes) := by
  intro earlier
  have h : (x >>= f).run.run earlier = (f a).run.run (notes ++ earlier) := by
    rw [ExceptT.run_bind, StateT.run_bind, hx earlier]
    rfl
  rw [h, hf, List.append_assoc]

/-- A first step without notes. -/
theorem bind_silent {a : α} {outcome : Except Fault β} (hx : Runs x (.ok a) [])
    (hf : Runs (f a) outcome more) : Runs (x >>= f) outcome more := by
  have h := hx.bind hf
  rwa [List.append_nil] at h

theorem bind_error {fault : Fault} (hx : Runs x (.error fault) notes) (f : α → Trace V β) :
    Runs (x >>= f) (.error fault) notes := by
  intro earlier
  rw [ExceptT.run_bind, StateT.run_bind, hx earlier]
  rfl

/-- Nothing is caught where nothing failed. -/
theorem uncaught {a : α} (hx : Runs x (.ok a) notes) (handle : Fault → Trace V α) :
    Runs (tryCatchThe Fault x handle) (.ok a) notes := by
  intro earlier
  change (tryCatch x handle : Trace V α).run.run earlier = _
  rw [ExceptT.run_tryCatch, StateT.run_bind, hx earlier]
  rfl

theorem caught {fault : Fault} {handle : Fault → Trace V α} {outcome : Except Fault α}
    (hx : Runs x (.error fault) notes) (hhandle : Runs (handle fault) outcome more) :
    Runs (tryCatchThe Fault x handle) outcome (more ++ notes) := by
  intro earlier
  have h : (tryCatchThe Fault x handle).run.run earlier =
      (handle fault).run.run (notes ++ earlier) := by
    change (tryCatch x handle : Trace V α).run.run earlier = _
    rw [ExceptT.run_tryCatch, StateT.run_bind, hx earlier]
    rfl
  rw [h, hhandle, List.append_assoc]

theorem run_nil {outcome : Except Fault α} (hx : Runs x outcome notes) :
    x.run.run [] = (outcome, notes) := by
  rw [hx, List.append_nil]

/-- A computation runs in one way only. -/
theorem unique {outcome other : Except Fault α} (hx : Runs x outcome notes)
    (hy : Runs x other more) : outcome = other ∧ notes = more :=
  Prod.mk.inj (hx.run_nil.symm.trans hy.run_nil)

end Runs

/-! ## Agreement -/

/-- The first computation is the strict form of the second: it returns what the second
returns without letting anything pass through, fails where the second fails or lets
something pass, and lets nothing pass itself. -/
inductive Agrees (x y : Trace V α) : Prop
  | returns {a : α} {xs ys : List (Note V)} (hx : Runs x (.ok a) xs) (hxs : NonePassed xs)
      (hy : Runs y (.ok a) ys) (hys : NonePassed ys)
  | fails {fault : Fault} {outcome : Except Fault α} {xs ys : List (Note V)}
      (hx : Runs x (.error fault) xs) (hxs : NonePassed xs) (hy : Runs y outcome ys)
      (hys : outcome.isOk = true → ¬ NonePassed ys)

theorem nonePassed_nil : NonePassed ([] : List (Note V)) :=
  nofun

theorem nonePassed_append {notes more : List (Note V)} :
    NonePassed (notes ++ more) ↔ NonePassed notes ∧ NonePassed more :=
  List.forall_mem_append

namespace Agrees

variable {x y : Trace V α}

/-- A computation that lets nothing pass agrees with itself. -/
theorem of_runs {outcome : Except Fault α} {notes : List (Note V)} (hx : Runs x outcome notes)
    (hnotes : NonePassed notes) : Agrees x x := by
  cases outcome with
  | ok a => exact .returns hx hnotes hx hnotes
  | error fault => exact .fails hx hnotes hx nofun

theorem pure (a : α) : Agrees (Pure.pure a : Trace V α) (Pure.pure a) :=
  of_runs (runs_pure a) nonePassed_nil

theorem throw (fault : Fault) :
    Agrees (MonadExcept.throw fault : Trace V α) (MonadExcept.throw fault) :=
  of_runs (runs_throw fault) nonePassed_nil

theorem lift (e : Except Fault α) :
    Agrees (Conversion.lift e : Trace V α) (Conversion.lift e) :=
  of_runs (runs_lift e) nonePassed_nil

/-- The strict computation lets nothing pass. -/
theorem exists_runs (h : Agrees x y) : ∃ outcome notes, Runs x outcome notes ∧ NonePassed notes := by
  cases h with
  | returns hx hxs _ _ => exact ⟨_, _, hx, hxs⟩
  | fails hx hxs _ _ => exact ⟨_, _, hx, hxs⟩

theorem exists_runs_right (h : Agrees x y) : ∃ outcome notes, Runs y outcome notes := by
  cases h with
  | returns _ _ hy _ => exact ⟨_, _, hy⟩
  | fails _ _ hy _ => exact ⟨_, _, hy⟩

theorem left (h : Agrees x y) : Agrees x x := by
  obtain ⟨_, _, hx, hxs⟩ := h.exists_runs
  exact of_runs hx hxs

theorem bind {f g : α → Trace V β} (h : Agrees x y) (hfg : ∀ a, Agrees (f a) (g a)) :
    Agrees (x >>= f) (y >>= g) := by
  cases h with
  | @returns a xs ys hx hxs hy hys =>
    cases hfg a with
    | returns hf hfs hg hgs =>
      exact .returns (hx.bind hf) (nonePassed_append.2 ⟨hfs, hxs⟩) (hy.bind hg)
        (nonePassed_append.2 ⟨hgs, hys⟩)
    | fails hf hfs hg hgs =>
      refine .fails (hx.bind hf) (nonePassed_append.2 ⟨hfs, hxs⟩) (hy.bind hg) fun hok hnone => ?_
      exact hgs hok (nonePassed_append.1 hnone).1
  | @fails fault outcome xs ys hx hxs hy hys =>
    cases outcome with
    | error other => exact .fails (hx.bind_error f) hxs (hy.bind_error g) nofun
    | ok b =>
      -- What passed before is not forgotten, whatever comes next.
      have hpassed : ∀ more, ¬ NonePassed (more ++ ys) := fun more hnone =>
        hys rfl (nonePassed_append.1 hnone).2
      cases hfg b with
      | returns _ _ hg _ => exact .fails (hx.bind_error f) hxs (hy.bind hg) fun _ => hpassed _
      | fails _ _ hg _ => exact .fails (hx.bind_error f) hxs (hy.bind hg) fun _ => hpassed _

theorem tryCatch {handle : Fault → Trace V α} (hx : Agrees x x)
    (hhandle : ∀ fault, Agrees (handle fault) (handle fault)) :
    Agrees (tryCatchThe Fault x handle) (tryCatchThe Fault x handle) := by
  obtain ⟨outcome, notes, hrun, hnotes⟩ := hx.exists_runs
  cases outcome with
  | ok a => exact of_runs (hrun.uncaught handle) hnotes
  | error fault =>
    obtain ⟨_, _, hthen, hmore⟩ := (hhandle fault).exists_runs
    exact of_runs (hrun.caught hthen) (nonePassed_append.2 ⟨hmore, hnotes⟩)

/-- What the strict computation returns is what the lenient one returns without letting
anything pass. -/
theorem eq_ok_iff (h : Agrees x y) {outcome : Except Fault α} {notes : List (Note V)}
    (hy : Runs y outcome notes) (a : α) :
    (x.run.run []).1 = .ok a ↔ outcome = .ok a ∧ NonePassed notes := by
  cases h with
  | returns hx _ hy' hys =>
    obtain ⟨rfl, rfl⟩ := hy.unique hy'
    rw [hx.run_nil]
    exact ⟨fun heq => ⟨heq, hys⟩, fun heq => heq.1⟩
  | fails hx _ hy' hys =>
    obtain ⟨rfl, rfl⟩ := hy.unique hy'
    rw [hx.run_nil]
    constructor
    · intro heq
      cases heq
    · rintro ⟨rfl, hnone⟩
      exact absurd hnone (hys rfl)

end Agrees

end Trace

end SceneBridge
