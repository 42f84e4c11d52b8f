import SceneBridge.Proofs.FreeingWorld

/-!
# Disposals that call back

How often a target is freed. The adapter lets go of its target only after the target was freed, so
that a disposal that begins in the meantime frees it again, and so does one after a disposal that
failed. Each further call of the method that frees the target is owed to such a disposal, and there
is no limit to how many there are. Once the target is gone, it is never freed again.
-/

namespace SceneBridge.FreeingWorld

open Possibly

variable {V : Type} {t u v w : FreeingWorld V}

/-! ## What holds of every state -/

/-- How many disposals may have begun besides those that were nested and those that failed: the one
that is underway, or the one that let go of the target. -/
def allowance (w : FreeingWorld V) : Nat :=
  if w.underway = 0 ∧ w.state.target ≠ none then 0 else 1

/-- Only one disposal began while no other one was underway and did not fail. -/
def IsBounded (w : FreeingWorld V) : Prop :=
  w.begun ≤ w.nested + w.failed + w.allowance

theorem allowance_le (w : FreeingWorld V) : w.allowance ≤ 1 := by
  unfold allowance
  split <;> simp

theorem allowance_of_gone (h : w.state.target = none) : w.allowance = 1 := by
  simp [allowance, h]

theorem IsNew.isBounded (h : IsNew w) : IsBounded w := by
  simp [IsBounded, h.begun]

/-- What a part of an operation may do, whatever calls the adapter back in between. -/
structure Proceeds (v w : FreeingWorld V) : Prop where
  underway : w.underway = v.underway
  /-- A target that is gone never comes back, and nothing is freed any more. -/
  gone : v.state.target = none →
    w.state.target = none ∧ w.begun = v.begun ∧ w.freed = v.freed
  /-- Each disposal frees the target at most once. -/
  freed : w.freed + v.begun ≤ v.freed + w.begun
  bounded : IsBounded v → IsBounded w

theorem proceeds_isStep : IsStep (Proceeds (V := V)) where
  refl _ := ⟨rfl, fun h => ⟨h, rfl, rfl⟩, Nat.le_refl _, id⟩
  trans {s t u} h₁ h₂ := by
    refine ⟨h₂.underway.trans h₁.underway, fun hgone => ?_, ?_, h₂.bounded ∘ h₁.bounded⟩
    · obtain ⟨ht, hbegun, hfreed⟩ := h₁.gone hgone
      obtain ⟨hu, hbegun', hfreed'⟩ := h₂.gone ht
      exact ⟨hu, hbegun'.trans hbegun, hfreed'.trans hfreed⟩
    · have := h₁.freed
      have := h₂.freed
      omega

/-- What leaves the target and all that was counted alone proceeds. -/
theorem Proceeds.of_eq (htarget : w.state.target = v.state.target)
    (hunderway : w.underway = v.underway) (hbegun : w.begun = v.begun)
    (hnested : w.nested = v.nested) (hfailed : w.failed = v.failed) (hfreed : w.freed = v.freed) :
    Proceeds v w where
  underway := hunderway
  gone h := ⟨htarget.trans h, hbegun, hfreed⟩
  freed := by simp [hfreed, hbegun]
  bounded h := by
    simpa [IsBounded, allowance, htarget, hunderway, hbegun, hnested, hfailed] using h

theorem Proceeds.element (w : FreeingWorld V) (s : ElementState (Item V) (Item V)) :
    Proceeds w { w with element := s } :=
  .of_eq rfl rfl rfl rfl rfl rfl

/-! ## Disposals -/

/-- What a disposal does before it lets go of the target: it frees the target once, or does not come
to that. -/
structure Frees (v w : FreeingWorld V) : Prop where
  underway : w.underway = v.underway
  freed : w.freed + v.begun ≤ v.freed + w.begun + 1
  bounded : IsBounded v → IsBounded w

theorem Proceeds.frees (h : Proceeds v w) : Frees v w where
  underway := h.underway
  freed := Nat.le_succ_of_le h.freed
  bounded := h.bounded

theorem Proceeds.trans_frees (h : Proceeds v t) (h' : Frees t w) : Frees v w where
  underway := h'.underway.trans h.underway
  freed := by
    have hbefore := h.freed
    have hafter := h'.freed
    omega
  bounded := h'.bounded ∘ h.bounded

theorem Proceeds.frees_of_called (h : Proceeds v.called w) : Frees v w where
  underway := h.underway
  freed := by
    have hfreed := h.freed
    simp only [called] at hfreed
    omega
  bounded := h.bounded

/-- What a disposal comes to that lets go of the target. -/
def released (w : FreeingWorld V) : FreeingWorld V :=
  { w with state := { w.state with phase := .disposed, target := none } }

theorem enter_isBounded (htarget : v.state.target ≠ none) (h : IsBounded v) :
    IsBounded v.enter := by
  have hallowance : v.enter.allowance = 1 := by simp [allowance, enter]
  unfold IsBounded at h ⊢
  rw [hallowance]
  by_cases hunderway : v.underway = 0
  · -- No other disposal is underway: this is the one that the allowance is for.
    have hnone : v.allowance = 0 := by simp [allowance, hunderway, htarget]
    simp only [enter, hunderway]
    simp at hnone ⊢
    omega
  · have hbusy : 0 < v.underway := Nat.pos_of_ne_zero hunderway
    have hle := v.allowance_le
    simp only [enter, hbusy, if_true]
    omega

theorem Frees.proceeds_of_error (htarget : v.state.target ≠ none) (h : Frees v.enter t)
    (fault : Fault) : Proceeds v (t.leave (.error fault)) where
  underway := by simp [leave, h.underway, enter]
  gone hgone := absurd hgone htarget
  freed := by
    have hfreed := h.freed
    simp only [enter, leave] at hfreed ⊢
    omega
  bounded hv := by
    have ht := h.bounded (enter_isBounded htarget hv)
    have hle := t.allowance_le
    unfold IsBounded at ht ⊢
    simp only [leave]
    omega

theorem Frees.proceeds_of_ok (htarget : v.state.target ≠ none) (h : Frees v.enter t) :
    Proceeds v (t.released.leave (.ok ())) where
  underway := by simp [leave, released, h.underway, enter]
  gone hgone := absurd hgone htarget
  freed := by
    have hfreed := h.freed
    simp only [enter, leave, released] at hfreed ⊢
    omega
  bounded hv := by
    have ht := h.bounded (enter_isBounded htarget hv)
    have hle := t.allowance_le
    have hgone : (t.released.leave (.ok ())).allowance = 1 := allowance_of_gone rfl
    unfold IsBounded at ht ⊢
    rw [hgone]
    simp only [leave, released]
    omega

section Adapter

variable [DecidableEq V] {d : AdapterDefinition (Item V)} {code : Possibly (FreeingWorld V) Unit}

/-! ## What the adapter asks of others -/

section Asks

variable (hcode : Advances Proceeds code)

include hcode

theorem bareAdapter_asks : (bareAdapter d code).Asks Proceeds where
  element := ⟨.read proceeds_isStep _, fun s => .change fun w => .element w s⟩
  state := .read proceeds_isStep _
  differs _ _ := .anything hcode
  member _ _ := .anything hcode
  peek _ _ := .anything hcode
  setMember _ _ _ := .anything hcode
  convert _ _ := .anything hcode
  entries? _ := .anything hcode
  newRecord _ := .anything hcode
  isOpenRecord _ := .anything hcode
  setEntry _ _ _ := .anything hcode

theorem notingAdapter_asks : (notingAdapter d code).Asks Proceeds :=
  { bareAdapter_asks (d := d) hcode with }

theorem adapter_asks : (adapter d code).Asks Proceeds :=
  { bareAdapter_asks (d := d) hcode with }

theorem adapter_calls : (adapter d code).Calls Proceeds :=
  ⟨fun _ => .anything hcode, fun _ _ _ => .anything hcode⟩

end Asks

omit [DecidableEq V] in
theorem modifyState_advances {f : AdapterState (Item V) → AdapterState (Item V)}
    (hf : ∀ s, (f s).target = s.target) :
    Advances Proceeds ((cell FreeingWorld.state fun s (w : FreeingWorld V) =>
      { w with state := s }).modify f) := by
  rw [cell_modify]
  exact .change fun w => .of_eq (hf w.state) rfl rfl rfl rfl rfl

theorem requestUpdate_advances (hcode : Advances Proceeds code) (name : String) (old : Item V) :
    Advances Proceeds ((bareAdapter d code).requestUpdate name old) := by
  refine (bareAdapter d code).requestUpdate_advances proceeds_isStep (bareAdapter_asks hcode)
    ?_ name old
  apply modifyState_advances
  intro s
  split <;> rfl

theorem connected_advances (hcode : Advances Proceeds code) :
    Advances Proceeds (adapter d code).connected := by
  have hR := proceeds_isStep (V := V)
  have hasks := adapter_asks (d := d) hcode
  have hhandlers (f : List (String × Item V) → List (String × Item V)) : Advances Proceeds
      ((adapter d code).state.modify fun s => { s with handlers := f s.handlers }) :=
    modifyState_advances fun _ => rfl
  refine .bind hR ((adapter d code).requireTarget_advances hR hasks) fun target => ?_
  refine .bind hR (hasks.element.modify hR _) fun _ => ?_
  refine .bind hR hasks.state fun s => .ite (fun _ => ?_) fun _ => .pure hR _
  refine .bind hR ?_ fun _ => modifyState_advances fun _ => rfl
  exact (adapter d code).bindEvents_advances hR hasks (adapter_calls hcode) hhandlers target

/-! ## Disposal -/

/-- Whoever runs the computation to its end has let go of the target as the last thing. -/
def ReleasesLast (x : Possibly (FreeingWorld V) Unit) : Prop :=
  ∀ v outcome w, x v (outcome, w) →
    (∃ fault, outcome = .error fault) ∧ Frees v w ∨
      outcome = .ok () ∧ ∃ t, Frees v t ∧ w = t.released

omit [DecidableEq V] in
theorem ReleasesLast.of_ends {x : Possibly (FreeingWorld V) Unit}
    (hx : ∀ v, Ends x v () v.released) : ReleasesLast x := by
  intro v outcome w h
  obtain ⟨rfl, rfl⟩ := Prod.mk.inj ((hx v _).1 h)
  exact .inr ⟨rfl, v, (proceeds_isStep.refl v).frees, rfl⟩

omit [DecidableEq V] in
theorem ReleasesLast.after {α : Type} {x : Possibly (FreeingWorld V) α}
    {f : α → Possibly (FreeingWorld V) Unit} (hx : Advances Proceeds x)
    (hf : ∀ a, ReleasesLast (f a)) : ReleasesLast (x >>= f) := by
  intro v outcome w h
  rcases bind_cases h with ⟨fault, rfl, hrun⟩ | ⟨a, u, hrun, hrest⟩
  · exact .inl ⟨⟨fault, rfl⟩, (hx _ _ _ hrun).frees⟩
  · have hu := hx _ _ _ hrun
    rcases hf a u outcome w hrest with ⟨hfault, hw⟩ | ⟨hok, t, ht, hw⟩
    · exact .inl ⟨hfault, hu.trans_frees hw⟩
    · exact .inr ⟨hok, t, hu.trans_frees ht, hw⟩

/-- Taking the handlers off calls nothing without arguments. -/
theorem unbindEvents_advances (hcode : Advances Proceeds code) (target : Item V) :
    Advances Proceeds ((freeingAdapter d code).unbindEvents target) := by
  have hasks : (freeingAdapter d code).Asks Proceeds := { bareAdapter_asks (d := d) hcode with }
  refine Adapter.unbindEvents_advances_of proceeds_isStep hasks ?_ ?_ ?_ target
  · exact fun _ _ _ => .anything hcode
  · exact fun _ => .anything hcode
  · exact modifyState_advances fun _ => rfl

/-- The call that frees the target is counted before any code of the target is run. -/
theorem callFree_proceeds (hcode : Advances Proceeds code) {free : Item V}
    {outcome : Except Fault (Item V)}
    (h : (freeingAdapter d code).call free [] [] v (outcome, w)) : Proceeds v.called w :=
  Advances.anything hcode _ _ _ (change_bind.1 h)

theorem dispose_cases (hcode : Advances Proceeds code) {outcome : Except Fault Unit}
    (htarget : v.state.target ≠ none) (h : (freeingAdapter d code).dispose v (outcome, w)) :
    (∃ fault, outcome = .error fault) ∧ Frees v w ∨
      outcome = .ok () ∧ ∃ t, Frees v t ∧ w = t.released := by
  obtain ⟨target, hsome⟩ := Option.ne_none_iff_exists'.1 htarget
  have hrest := read_bind.1 h
  simp only [hsome] at hrest
  have hunbind := unbindEvents_advances (d := d) hcode target
  have hends (s : FreeingWorld V) : Ends (do
      (freeingAdapter d code).state.modify ({ · with target := none })
      (freeingAdapter d code).state.modify ({ · with phase := .disposed })) s () s.released :=
    .bind (.modify _ _ _ s) (.modify _ _ _ _)
  refine ReleasesLast.after hunbind (fun _ => ?_) v outcome w hrest
  refine .after (.anything hcode) fun free => ?_
  refine .after (.anything hcode) fun callable => ?_
  cases callable with
  | false => exact .of_ends hends
  | true =>
    intro s outcome w h
    rcases bind_cases h with ⟨fault, rfl, hcall⟩ | ⟨_, t, hcall, hrest⟩
    · exact .inl ⟨⟨fault, rfl⟩, (callFree_proceeds hcode hcall).frees_of_called⟩
    · have ht := (callFree_proceeds hcode hcall).frees_of_called
      obtain ⟨rfl, rfl⟩ := Prod.mk.inj ((hends t _).1 hrest)
      exact .inr ⟨rfl, t, ht, rfl⟩

theorem dispose_of_gone (h : v.state.target = none) :
    Ends (freeingAdapter d code).dispose v () v := by
  apply Ends.bind (.read _ v)
  rw [h]
  exact .pure () v

theorem disposal_of_gone (h : v.state.target = none) : Ends (disposal d code) v () v := by
  intro e
  simp only [disposal, during, h]
  exact dispose_of_gone h e

theorem disposal_advances (hcode : Advances Proceeds code) :
    Advances Proceeds (disposal d code) := by
  intro v outcome w hrun
  by_cases htarget : v.state.target = none
  · obtain ⟨-, rfl⟩ := Prod.mk.inj ((disposal_of_gone htarget _).1 hrun)
    exact proceeds_isStep.refl w
  · obtain ⟨target, hsome⟩ := Option.ne_none_iff_exists'.1 htarget
    simp only [disposal, during, hsome] at hrun
    obtain ⟨t, hdispose, rfl⟩ := hrun
    have hentered : v.enter.state.target ≠ none := htarget
    rcases dispose_cases hcode hentered hdispose with
      ⟨⟨fault, rfl⟩, hfrees⟩ | ⟨rfl, u, hfrees, rfl⟩
    · exact hfrees.proceeds_of_error htarget fault
    · exact hfrees.proceeds_of_ok htarget

/-! ## Every operation -/

theorem run_advances (hcode : Advances Proceeds code) (op : Operation V) :
    Advances Proceeds (run d code op) := by
  have hR := proceeds_isStep (V := V)
  have hasks := adapter_asks (d := d) hcode
  have hnoting := notingAdapter_asks (d := d) hcode
  have hset (name : String) (value : Item V) :
      Advances Proceeds ((notingAdapter d code).setProperty name value) :=
    (notingAdapter d code).setProperty_advances hR hnoting (requestUpdate_advances hcode) name value
  have hupdate (names : List String) : Advances Proceeds ((notingAdapter d code).update names) :=
    (notingAdapter d code).update_advances hR hnoting (modifyState_advances fun _ => rfl) names
  have hperform : Advances Proceeds (adapter d code).element.performUpdate := by
    refine Element.performUpdate_advances hR hasks.element (fun _ => hupdate _) ?_
    exact Element.finishUpdate_advances hR hasks.element (fun _ => .anything hcode)
      (fun _ => .anything hcode) fun _ _ => .anything hcode
  have hdispatch (type : String) (detail : Item V) :
      Advances Proceeds ((adapter d code).dispatch type detail) :=
    .bind hR (.read hR _) fun _ => .deliver hR fun _ _ => .anything hcode
  cases op with
  | setAttribute attr text => exact Element.setAttribute_advances hR hasks.element hset attr text _
  | removeAttribute attr => exact Element.removeAttribute_advances hR hasks.element hset attr
  | setProperty name value =>
    exact (adapter d code).setProperty_advances hR hasks (requestUpdate_advances hcode) name value
  | readProperty name =>
    exact .bind hR ((adapter d code).property_advances hR hasks name) fun _ => .pure hR _
  | requestUpdate name old => exact requestUpdate_advances hcode name old
  | update names =>
    exact (adapter d code).update_advances hR hasks (modifyState_advances fun _ => rfl) names
  | performUpdate => exact .bind hR hperform fun _ => .pure hR _
  | flush limit => exact .bind hR (Element.flush_advances hR hperform limit) fun _ => .pure hR _
  | complete =>
    refine .bind hR ?_ fun _ => .pure hR _
    exact Element.complete_advances hR hasks.element (Element.flush_advances hR hperform)
  | connect => exact connected_advances hcode
  | disconnect => exact .bind hR (hasks.element.modify hR _) fun _ => disposal_advances hcode
  | dispose => exact disposal_advances hcode
  | forward binding args named =>
    refine .bind hR ?_ fun _ => .pure hR _
    exact (adapter d code).forward_advances hR hasks (fun _ => .anything hcode) binding
  | bridge event detail => exact hdispatch _ detail
  | dispatch type detail => exact hdispatch type detail
  | adjust f => exact hasks.element.modify hR f
  | look => exact .pure hR ()

theorem behave_advances (depth : Nat) : Advances Proceeds (behave (V := V) d depth) := by
  -- What is called at some depth asks for operations that call code of less depth.
  induction depth with
  | zero => exact .pure proceeds_isStep ()
  | succ n ih => exact .often proceeds_isStep (.choose fun op => .anything (run_advances ih op))

theorem runs_proceed {ops : List (Operation V)} (hrun : Runs (possibly d) ops v w) :
    Proceeds v w :=
  hrun.advances proceeds_isStep fun op _ =>
    .choose fun depth => run_advances (behave_advances depth) op

/-! ## Disposals within disposals -/

/-- An adapter after a disposal in the course of which it was disposed of another `n` times. -/
def freedAgain (n : Nat) (w : FreeingWorld V) : FreeingWorld V :=
  { w with
    state := ⟨.disposed, [], none⟩
    begun := w.begun + (n + 1)
    nested := (if 0 < w.underway then w.nested + 1 else w.nested) + n
    freed := w.freed + (n + 1) }

theorem behave_idle (depth : Nat) (w : FreeingWorld V) : behave d depth w (.ok (), w) := by
  cases depth with
  | zero => rfl
  | succ n => exact ⟨0, rfl⟩

/-- A disposal from where the adapter has its target, if freeing the target calls back from `u` to
`t`. -/
theorem disposal_reached {depth : Nat} (htarget : v.state.target ≠ none)
    (hcalled : behave d depth
      (called { v.enter with state := { v.state with handlers := [] } }) (.ok (), t)) :
    disposal d (behave d depth) v (.ok (), t.released.leave (.ok ())) := by
  obtain ⟨target, hsome⟩ := Option.ne_none_iff_exists'.1 htarget
  let a := freeingAdapter d (behave d depth)
  let u : FreeingWorld V := { v.enter with state := { v.state with handlers := [] } }
  have hidle {α : Type} (x : α) (w : FreeingWorld V) :
      (anything (behave d depth) : Possibly (FreeingWorld V) α) w (.ok x, w) :=
    ⟨.ok (), behave_idle depth w⟩
  -- The target has no method that takes handlers off.
  have hunbind : a.unbindEvents target v.enter (.ok (), u) := by
    refine ⟨.ok target, v.enter, hidle _ _, .ok false, v.enter, hidle _ _, ?_⟩
    exact (Ends.modify _ _ _ v.enter _).2 rfl
  have hfree : a.call target [] [] u (.ok target, t) := change_bind.2 ⟨.ok (), hcalled⟩
  have hdispose : a.dispose v.enter (.ok (), t.released) := by
    apply read_bind.2
    have hentered : v.enter.state.target = some target := hsome
    simp only [hentered]
    refine ⟨.ok (), u, hunbind, .ok target, u, hidle _ _, .ok true, u, hidle _ _, ?_⟩
    refine ⟨.ok target, t, hfree, ?_⟩
    exact ⟨.ok (), _, (Ends.modify _ _ _ t _).2 rfl, (Ends.modify _ _ _ _ _).2 rfl⟩
  simp only [disposal, during, hsome]
  exact ⟨t.released, hdispose, rfl⟩

/-- Freeing the target may call for another disposal as often as code outside nests its calls. -/
theorem disposal_nests (n : Nat) (htarget : v.state.target ≠ none) :
    disposal d (behave d n) v (.ok (), v.freedAgain n) := by
  -- The induction is on how deeply the disposals are nested; each is called for by the one before.
  induction n generalizing v with
  | zero =>
    have h : disposal d (behave d 0) v _ := disposal_reached htarget rfl
    simpa [freedAgain, released, leave, called, enter] using h
  | succ n ih =>
    let u : FreeingWorld V := called { v.enter with state := { v.state with handlers := [] } }
    have hinner : run d (behave d n) .dispose u (.ok (), u.freedAgain n) := ih htarget
    have hcalled : behave d (n + 1) u (.ok (), u.freedAgain n) :=
      ⟨1, .ok (), u.freedAgain n, ⟨.dispose, .ok (), hinner⟩, rfl⟩
    have h := disposal_reached htarget hcalled
    have heq : (u.freedAgain n).released.leave (.ok ()) = v.freedAgain (n + 1) := by
      simp only [u, freedAgain, released, leave, called, enter, FreeingWorld.mk.injEq]
      simp
      omega
    exact heq ▸ h

/-- Whatever calls the adapter back, and whenever it does: the target is freed at most once, not
counting one call for each disposal that begins in the middle of another one and for each that
fails. Once the target is gone, nothing frees it any more. But as long as the adapter has its
target, a disposal may free it any number of times, if only it is called back as often. -/
theorem freed_once_unless_again {ops : List (Operation V)} (hnew : IsNew v)
    (hrun : Runs (possibly d) ops v w) :
    w.underway = 0 ∧ w.freed ≤ w.begun ∧ w.begun ≤ w.nested + w.failed + 1 ∧
      (w.state.target ≠ none → w.begun ≤ w.nested + w.failed) ∧
      (w.nested = 0 → w.failed = 0 → w.freed ≤ 1) ∧
      (w.state.target = none →
        (∀ e, possibly d .dispose w e ↔ e = (.ok (), w)) ∧
        ∀ later x, Runs (possibly d) later w x → x.freed = w.freed) ∧
      (w.state.target ≠ none → ∀ n,
        possibly d .dispose w (.ok (), w.freedAgain n) ∧
          (w.freedAgain n).freed = w.freed + (n + 1)) := by
  have hproceeds := runs_proceed hrun
  have hunderway : w.underway = 0 := hproceeds.underway.trans hnew.underway
  have hfreed : w.freed ≤ w.begun := by
    have h := hproceeds.freed
    rw [hnew.begun, hnew.freed] at h
    omega
  have hbounded : w.begun ≤ w.nested + w.failed + w.allowance := hproceeds.bounded hnew.isBounded
  have hallowance := w.allowance_le
  refine ⟨hunderway, hfreed, by omega, fun htarget => ?_, fun hnested hfailed => by omega,
    fun hgone => ⟨fun e => ?_, fun later x hlater => ?_⟩, fun htarget n => ⟨?_, rfl⟩⟩
  · have hnone : w.allowance = 0 := by simp [allowance, hunderway, htarget]
    omega
  · constructor
    · rintro ⟨depth, hdispose⟩
      exact (disposal_of_gone hgone e).1 hdispose
    · intro he
      exact ⟨0, (disposal_of_gone hgone e).2 he⟩
  · exact ((runs_proceed hlater).gone hgone).2.2
  · exact ⟨n, disposal_nests n htarget⟩

end Adapter

/-! ## A target that is freed twice -/

/-- Adapters of a class without members. -/
def lightDefinition : AdapterDefinition (Item Nat) where
  className := "Light"
  metadata := Metadata.empty
  attributes := []
  methods := []
  statics := []
  eventPrefix := "on-"
  shadowed := []

/-- A new adapter. -/
def newWorld : FreeingWorld Nat where
  element := .empty
  state := ⟨.constructed, [], some (.thing .target)⟩
  underway := 0
  begun := 0
  nested := 0
  failed := 0
  freed := 0

/-- A listener that disposes of the adapter when its target is freed has it freed twice. -/
theorem freed_twice_by_listener :
    Runs (possibly lightDefinition) [.dispose] newWorld (newWorld.freedAgain 1) ∧
      (newWorld.freedAgain 1).freed = 2 ∧ (newWorld.freedAgain 1).nested = 1 ∧
      ∀ later x, Runs (possibly lightDefinition) later (newWorld.freedAgain 1) x → x.freed = 2 := by
  have hnew : newWorld.IsNew := ⟨by simp [newWorld], rfl, rfl, rfl, rfl, rfl⟩
  have hstart := freed_once_unless_again (d := lightDefinition) hnew (.nil _)
  obtain ⟨-, -, -, -, -, -, hagain⟩ := hstart
  have hrun : Runs (possibly lightDefinition) [.dispose] newWorld (newWorld.freedAgain 1) :=
    .cons (hagain hnew.target 1).1 (.nil _)
  obtain ⟨-, -, -, -, -, hgone, -⟩ := freed_once_unless_again hnew hrun
  exact ⟨hrun, rfl, rfl, fun later x hlater => (hgone rfl).2 later x hlater⟩

end SceneBridge.FreeingWorld
