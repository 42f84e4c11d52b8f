import SceneBridge.Proofs.ReentrantWorld

/-!
# Disposal among calls back

An adapter whose target, listeners and handlers may call it back at any time, and so may
dispose of it in the middle of its own operations. Without its target it never gets one again,
and its phase is settled from then on; but the phase is `disposed` only if no update and no
connection was in the middle of its work when the target was let go of.
-/

namespace SceneBridge.ReentrantWorld

open Possibly

variable {V : Type} {t v w : ReentrantWorld V}

/-! ## What holds of every state -/

/-- Phase, target and what was noted go together. -/
structure IsSound (w : ReentrantWorld V) : Prop where
  released : w.state.phase = .disposed → w.state.target = none
  isFreed_iff : w.isFreed = true ↔ w.state.target = none
  lawful : w.isInterrupted = false → w.state.target = none → w.state.phase = .disposed
  readings : w.isInterrupted = false → ∀ phase ∈ w.readings, phase = .disposed

theorem IsNew.isSound (h : IsNew w) : IsSound w where
  released hphase := by simp [h.phase] at hphase
  isFreed_iff := by simp [h.isFreed, h.target]
  lawful _ htarget := absurd htarget h.target
  readings _ phase hmem := by simp [h.readings] at hmem

/-- What a part of an operation may do, whatever calls it back in between. -/
structure Proceeds (v w : ReentrantWorld V) : Prop where
  underway : w.underway = v.underway
  isInterrupted : v.isInterrupted = true → w.isInterrupted = true
  /-- A target that is gone never comes back. -/
  gone : v.state.target = none → w.state.target = none
  /-- In the middle of an update or a connection, the target stays unless that is noted. -/
  kept : w.isInterrupted = false → 0 < v.underway → v.state.target ≠ none → w.state.target ≠ none
  /-- Without target, the phase is settled. -/
  settled : v.state.target = none → (w.state.phase = .disposed ↔ v.state.phase = .disposed)
  sound : IsSound v → IsSound w

theorem Proceeds.isInterrupted_eq_false (h : Proceeds v w) (hw : w.isInterrupted = false) :
    v.isInterrupted = false := by
  cases hv : v.isInterrupted with
  | false => rfl
  | true => exact absurd (h.isInterrupted hv) (by simp [hw])

theorem proceeds_isStep : IsStep (Proceeds (V := V)) where
  refl _ := ⟨rfl, id, id, fun _ _ => id, fun _ => .rfl, id⟩
  trans {s t u} h₁ h₂ := by
    refine ⟨h₂.underway.trans h₁.underway, h₂.isInterrupted ∘ h₁.isInterrupted, h₂.gone ∘ h₁.gone,
      fun hu hbusy htarget => ?_, fun hgone => ?_, h₂.sound ∘ h₁.sound⟩
    · have ht := h₁.kept (h₂.isInterrupted_eq_false hu) hbusy htarget
      exact h₂.kept hu (h₁.underway ▸ hbusy) ht
    · exact (h₂.settled (h₁.gone hgone)).trans (h₁.settled hgone)

/-- What leaves the target and all that was noted alone proceeds, if it leaves the phase alone as
well, or at least whether it is `disposed`. -/
theorem Proceeds.of_eq (htarget : w.state.target = v.state.target)
    (hphase : w.state.phase = .disposed ↔ v.state.phase = .disposed)
    (hunderway : w.underway = v.underway) (hfreed : w.isFreed = v.isFreed)
    (hinterrupted : w.isInterrupted = v.isInterrupted) (hreadings : w.readings = v.readings) :
    Proceeds v w where
  underway := hunderway
  isInterrupted := by rw [hinterrupted]; exact id
  gone := by rw [htarget]; exact id
  kept _ _ := by rw [htarget]; exact id
  settled _ := hphase
  sound h := by
    refine ⟨?_, ?_, ?_, ?_⟩
    · rw [hphase, htarget]
      exact h.released
    · rw [hfreed, htarget]
      exact h.isFreed_iff
    · rw [hinterrupted, htarget, hphase]
      exact h.lawful
    · rw [hinterrupted, hreadings]
      exact h.readings

theorem Proceeds.element (w : ReentrantWorld V) (s : ElementState (Item V) (Item V)) :
    Proceeds w { w with element := s } :=
  .of_eq rfl .rfl rfl rfl rfl rfl

/-! ## What is noted -/

theorem looked_proceeds (w : ReentrantWorld V) : Proceeds w w.looked := by
  unfold looked
  split
  · rename_i hfreed
    refine ⟨rfl, id, id, fun _ _ => id, fun _ => .rfl, fun h => ⟨h.1, h.2, h.3, fun hw phase hmem => ?_⟩⟩
    rcases List.mem_append.1 hmem with hmem | hmem
    · exact h.readings hw phase hmem
    · rw [List.mem_singleton.1 hmem]
      exact h.lawful hw (h.isFreed_iff.1 hfreed)
  · exact proceeds_isStep.refl w

/-! ## The ends of updates and connections -/

/-- What an update or a connection may come to: nothing without the target, and with it a state
in the course of it, or that state with the phase that it ends in. -/
def Settles (phase : AdapterPhase) (v w : ReentrantWorld V) : Prop :=
  v.state.target = none ∧ w = v ∨
    v.state.target ≠ none ∧ ∃ t, Proceeds v t ∧ (w = t ∨ w = t.inPhase phase)

/-- The adapter is moved to another phase at the end of an update or a connection. -/
theorem during_proceeds {phase : AdapterPhase} (hphase : phase ≠ .disposed)
    (h : Settles phase v.enter t) : Proceeds v t.leave := by
  have henter {u : ReentrantWorld V} : IsSound u → IsSound u.enter := fun h => ⟨h.1, h.2, h.3, h.4⟩
  have hleave {u : ReentrantWorld V} : IsSound u → IsSound u.leave := fun h => ⟨h.1, h.2, h.3, h.4⟩
  rcases h with ⟨hgone, rfl⟩ | ⟨htarget, x, hx, hlast⟩
  · exact .of_eq rfl .rfl (Nat.add_sub_cancel _ _) rfl rfl rfl
  have hunderway : x.underway - 1 = v.underway := by
    rw [hx.underway]
    exact Nat.add_sub_cancel _ _
  rcases hlast with rfl | rfl
  · refine ⟨hunderway, hx.isInterrupted, hx.gone, fun hw _ => hx.kept hw (Nat.succ_pos _),
      fun hgone => absurd hgone htarget, fun h => hleave (hx.sound (henter h))⟩
  · refine ⟨hunderway, hx.isInterrupted, hx.gone, fun hw _ => hx.kept hw (Nat.succ_pos _),
      fun hgone => absurd hgone htarget, fun h => ?_⟩
    have hsound := hx.sound (henter h)
    refine ⟨fun hdisposed => absurd hdisposed hphase, hsound.isFreed_iff, fun hw hgone => ?_,
      hsound.readings⟩
    exact absurd hgone (hx.kept hw (Nat.succ_pos _) htarget)

/-! ## The ends of disposals -/

/-- What a disposal comes to that lets go of the target. -/
def released (w : ReentrantWorld V) : ReentrantWorld V :=
  { w with state := { w.state with phase := .disposed, target := none } }

theorem freed_of_gone (hgone : v.state.target = none) : Proceeds v v.freed where
  underway := rfl
  isInterrupted h := by simp [freed, h]
  gone := id
  kept _ _ htarget := absurd hgone htarget
  settled _ := .rfl
  sound h := by
    have hlawful (hw : v.freed.isInterrupted = false) : v.isInterrupted = false :=
      (Bool.or_eq_false_iff.1 hw).1
    exact ⟨h.released, by simp [freed, hgone], fun hw => h.lawful (hlawful hw),
      fun hw => h.readings (hlawful hw)⟩

theorem freed_of_released (htarget : v.state.target ≠ none) (h : Proceeds v t) :
    Proceeds v t.released.freed := by
  have hfalse (hw : t.released.freed.isInterrupted = false) :
      t.isInterrupted = false ∧ decide (0 < t.underway) = false :=
    Bool.or_eq_false_iff.1 hw
  refine ⟨h.underway, fun hv => ?_, fun _ => rfl, fun hw hbusy => ?_, fun hgone => absurd hgone htarget,
    fun hv => ⟨fun _ => rfl, by simp [freed, released], fun _ _ => rfl, fun hw => ?_⟩⟩
  · simp [freed, released, h.isInterrupted hv]
  · exact absurd (h.underway ▸ hbusy) (of_decide_eq_false (hfalse hw).2)
  · exact (h.sound hv).readings (hfalse hw).1

/-- What, unless it breaks, releases the target as the last thing it does. -/
def ReleasesLast (x : Possibly (ReentrantWorld V) Unit) : Prop :=
  ∀ v outcome w, x v (outcome, w) →
    ∃ t, Proceeds v t ∧ (w = t ∧ outcome ≠ .ok () ∨ w = t.released ∧ outcome = .ok ())

theorem ReleasesLast.of_ends {x : Possibly (ReentrantWorld V) Unit}
    (hx : ∀ v, Ends x v () v.released) : ReleasesLast x := by
  intro v outcome w h
  obtain ⟨rfl, rfl⟩ := Prod.mk.inj ((hx v _).1 h)
  exact ⟨v, proceeds_isStep.refl v, .inr ⟨rfl, rfl⟩⟩

theorem ReleasesLast.after {α : Type} {x : Possibly (ReentrantWorld V) α}
    {f : α → Possibly (ReentrantWorld V) Unit} (hx : Advances Proceeds x)
    (hf : ∀ a, ReleasesLast (f a)) : ReleasesLast (x >>= f) := by
  intro v outcome w h
  rcases bind_cases h with ⟨fault, rfl, hrun⟩ | ⟨a, u, hrun, hrest⟩
  · exact ⟨w, hx _ _ _ hrun, .inl ⟨rfl, nofun⟩⟩
  · obtain ⟨t, ht, hcases⟩ := hf a u outcome w hrest
    exact ⟨t, proceeds_isStep.trans (hx _ _ _ hrun) ht, hcases⟩

section Adapter

variable [DecidableEq V] {d : AdapterDefinition (Item V)} {code : Possibly (ReentrantWorld V) Unit}

/-! ## What the adapter asks of others -/

section Asks

variable (hcode : Advances Proceeds code)

include hcode

theorem bareAdapter_asks : (bareAdapter d code).Asks Proceeds where
  element := ⟨.read proceeds_isStep _, fun s => .change fun w => .element w s⟩
  state := .read proceeds_isStep _
  differs _ _ := .anything hcode
  member _ _ := .anything hcode
  peek _ _ := .anything hcode
  setMember _ _ _ := .anything hcode
  convert _ _ := .anything hcode
  entries? _ := .anything hcode
  newRecord _ := .anything hcode
  isOpenRecord _ := .anything hcode
  setEntry _ _ _ := .anything hcode

theorem notingAdapter_asks : (notingAdapter d code).Asks Proceeds :=
  { bareAdapter_asks (d := d) hcode with }

theorem adapter_asks : (adapter d code).Asks Proceeds :=
  { bareAdapter_asks (d := d) hcode with }

theorem notingAdapter_calls : (notingAdapter d code).Calls Proceeds :=
  ⟨fun _ => .anything hcode, fun _ _ _ => .anything hcode⟩

end Asks

theorem handlers_advances (f : List (String × Item V) → List (String × Item V)) :
    Advances Proceeds ((notingAdapter d code).state.modify fun s =>
      { s with handlers := f s.handlers }) := by
  refine (cell_modify _ _ _).symm ▸ Advances.change fun w => ?_
  exact .of_eq rfl .rfl rfl rfl rfl rfl

/-! ## Noting changes -/

theorem requestUpdate_advances (hcode : Advances Proceeds code) (name : String) (old : Item V) :
    Advances Proceeds ((bareAdapter d code).requestUpdate name old) := by
  refine (bareAdapter d code).requestUpdate_advances proceeds_isStep (bareAdapter_asks hcode) ?_ name old
  refine (cell_modify _ _ _).symm ▸ Advances.change fun w => ?_
  -- Only an adapter that is bound or converted moves on, so that `disposed` stays what it is.
  split
  · rename_i hphase
    refine .of_eq rfl ?_ rfl rfl rfl rfl
    rcases hphase with hphase | hphase <;> simp [hphase]
  · exact .of_eq rfl .rfl rfl rfl rfl rfl

/-! ## Updates and connections -/

theorem requireTarget_cases {outcome : Except Fault (Item V)}
    (h : (notingAdapter d code).requireTarget v (outcome, w)) :
    w = v ∧ (v.state.target = none ∧ (∃ fault, outcome = .error fault) ∨ v.state.target ≠ none) := by
  have hrest := read_bind.1 h
  cases htarget : v.state.target with
  | none =>
    simp only [htarget] at hrest
    obtain ⟨rfl, rfl⟩ := Prod.mk.inj hrest
    exact ⟨rfl, .inl ⟨rfl, _, rfl⟩⟩
  | some target =>
    simp only [htarget] at hrest
    obtain ⟨rfl, rfl⟩ := Prod.mk.inj hrest
    exact ⟨rfl, .inr (by simp)⟩

/-- What comes after the target was asked for is not run without target. -/
theorem settles_of_requireTarget {α : Type} {phase : AdapterPhase}
    {f : Item V → Possibly (ReentrantWorld V) α} {outcome : Except Fault α}
    (hf : ∀ target {t u : ReentrantWorld V} {inner : Except Fault α},
      f target t (inner, u) → ∃ x, Proceeds t x ∧ (u = x ∨ u = x.inPhase phase))
    (h : ((notingAdapter d code).requireTarget >>= f) v (outcome, w)) : Settles phase v w := by
  rcases bind_cases h with ⟨fault, rfl, hask⟩ | ⟨target, t, hask, hrest⟩
  · obtain ⟨rfl, hcases⟩ := requireTarget_cases hask
    rcases hcases with ⟨hgone, -⟩ | htarget
    · exact .inl ⟨hgone, rfl⟩
    · exact .inr ⟨htarget, w, proceeds_isStep.refl w, .inl rfl⟩
  · obtain ⟨rfl, hcases⟩ := requireTarget_cases hask
    rcases hcases with ⟨-, fault, hfault⟩ | htarget
    · cases hfault
    · exact .inr ⟨htarget, hf target hrest⟩

theorem updateBody_settles (hcode : Advances Proceeds code) {names : List String}
    {outcome : Except Fault Unit} (h : (notingAdapter d code).update names v (outcome, w)) :
    Settles .converted v w := by
  refine settles_of_requireTarget (fun target t u inner hrest => ?_) h
  have hasks := notingAdapter_asks (d := d) hcode
  have hall : Advances Proceeds (names.filterMapM ((notingAdapter d code).applyChange target)) :=
    .filterMapM proceeds_isStep fun name _ => (notingAdapter d code).applyChange_advances
      proceeds_isStep hasks.toAsksOutside hasks.element.get target name
  rcases bind_cases hrest with ⟨fault, -, happly⟩ | ⟨failures, x, happly, hrest⟩
  · exact ⟨u, hall _ _ _ happly, .inl rfl⟩
  · refine ⟨x, hall _ _ _ happly, .inr ?_⟩
    have hreport := (Ends.modify _ _ _ x).bind_iff.1 hrest
    cases hfailures : failures.head? with
    | some fault =>
      simp only [hfailures] at hreport
      exact (Prod.mk.inj hreport).2
    | none =>
      simp only [hfailures] at hreport
      exact (Prod.mk.inj hreport).2

theorem update_advances (hcode : Advances Proceeds code) (names : List String) :
    Advances Proceeds (update d code names) := by
  rintro v outcome w ⟨t, hrun, rfl⟩
  exact during_proceeds (by simp) (updateBody_settles hcode hrun)

theorem connected_settles (hcode : Advances Proceeds code) {outcome : Except Fault Unit}
    (h : (adapter d code).connected v (outcome, w)) : Settles .bound v w := by
  change ((notingAdapter d code).requireTarget >>= _) v (outcome, w) at h
  refine settles_of_requireTarget (fun target t u inner hrest => ?_) h
  have hbind : Advances Proceeds ((notingAdapter d code).bindEvents target) :=
    (notingAdapter d code).bindEvents_advances proceeds_isStep (notingAdapter_asks hcode)
      (notingAdapter_calls hcode) handlers_advances target
  let s := { t with element := { t.element with isConnected := true } }
  have hs : Proceeds t s := .element t _
  have hrest := read_bind.1 ((Ends.modify _ _ _ t).bind_iff.1 hrest)
  split at hrest
  · rcases bind_cases hrest with ⟨fault, -, hbound⟩ | ⟨_, x, hbound, hlast⟩
    · exact ⟨u, proceeds_isStep.trans hs (hbind _ _ _ hbound), .inl rfl⟩
    · refine ⟨x, proceeds_isStep.trans hs (hbind _ _ _ hbound), .inr ?_⟩
      exact (Prod.mk.inj ((Ends.modify _ _ _ x _).1 hlast)).2
  · obtain ⟨-, rfl⟩ := Prod.mk.inj hrest
    exact ⟨s, hs, .inl rfl⟩

theorem connect_advances (hcode : Advances Proceeds code) :
    Advances Proceeds (during (adapter d code).connected) := by
  rintro v outcome w ⟨t, hrun, rfl⟩
  exact during_proceeds (by simp) (connected_settles hcode hrun)

/-! ## Disposal -/

theorem dispose_cases (hcode : Advances Proceeds code) {outcome : Except Fault Unit}
    (h : (notingAdapter d code).dispose v (outcome, w)) :
    v.state.target = none ∧ outcome = .ok () ∧ w = v ∨
      v.state.target ≠ none ∧ ∃ t, Proceeds v t ∧
        (w = t ∧ outcome ≠ .ok () ∨ w = t.released ∧ outcome = .ok ()) := by
  have hrest := read_bind.1 h
  cases htarget : v.state.target with
  | none =>
    simp only [htarget] at hrest
    obtain ⟨rfl, rfl⟩ := Prod.mk.inj hrest
    exact .inl ⟨rfl, rfl, rfl⟩
  | some target =>
    simp only [htarget] at hrest
    have hasks := notingAdapter_asks (d := d) hcode
    have hcalls := notingAdapter_calls (d := d) hcode
    have hunbind : Advances Proceeds ((notingAdapter d code).unbindEvents target) :=
      (notingAdapter d code).unbindEvents_advances proceeds_isStep hasks hcalls handlers_advances target
    have hlast : ReleasesLast (do
        (notingAdapter d code).state.modify ({ · with target := none })
        (notingAdapter d code).state.modify ({ · with phase := .disposed })) :=
      .of_ends fun u => .bind (.modify _ _ _ u) (.modify _ _ _ _)
    refine .inr ⟨by simp, ?_⟩
    refine ReleasesLast.after hunbind (fun _ => ?_) v outcome w hrest
    refine .after (hasks.peek target "dispose") fun free => ?_
    refine .after (hcalls.isCallable free) fun callable => ?_
    cases callable with
    | false => exact hlast
    | true => exact .after (hcalls.call free [] []) fun _ => hlast

theorem disposal_advances (hcode : Advances Proceeds code) :
    Advances Proceeds (disposal d code) := by
  intro v outcome w hrun
  rcases bind_cases hrun with ⟨fault, rfl, hdispose⟩ | ⟨_, u, hdispose, hfreed⟩
  · rcases dispose_cases hcode hdispose with ⟨-, -, rfl⟩ | ⟨-, t, ht, ⟨rfl, -⟩ | ⟨-, hok⟩⟩
    · exact proceeds_isStep.refl w
    · exact ht
    · cases hok
  · obtain ⟨rfl, rfl⟩ := Prod.mk.inj hfreed
    rcases dispose_cases hcode hdispose with ⟨hgone, -, rfl⟩ | ⟨htarget, t, ht, ⟨-, hok⟩ | ⟨rfl, -⟩⟩
    · exact freed_of_gone hgone
    · exact absurd rfl hok
    · exact freed_of_released htarget ht

/-! ## Every operation -/

theorem run_advances (hcode : Advances Proceeds code) (op : Operation V) :
    Advances Proceeds (op.run d code) := by
  have hR := proceeds_isStep (V := V)
  have hasks := adapter_asks (d := d) hcode
  have hset (name : String) (value : Item V) :
      Advances Proceeds ((notingAdapter d code).setProperty name value) :=
    (notingAdapter d code).setProperty_advances hR (notingAdapter_asks hcode)
      (requestUpdate_advances hcode) name value
  have hperform : Advances Proceeds (adapter d code).element.performUpdate := by
    refine Element.performUpdate_advances hR hasks.element (fun _ => update_advances hcode _) ?_
    exact Element.finishUpdate_advances hR hasks.element (fun _ => .anything hcode)
      (fun _ => .anything hcode) fun _ _ => .anything hcode
  have hdispatch (type : String) (detail : Item V) :
      Advances Proceeds ((adapter d code).dispatch type detail) :=
    .bind hR (.read hR _) fun _ => .deliver hR fun _ _ => .anything hcode
  cases op with
  | setAttribute attr text => exact Element.setAttribute_advances hR hasks.element hset attr text _
  | removeAttribute attr => exact Element.removeAttribute_advances hR hasks.element hset attr
  | setProperty name value =>
    exact (adapter d code).setProperty_advances hR hasks (requestUpdate_advances hcode) name value
  | readProperty name =>
    exact .bind hR ((adapter d code).property_advances hR hasks name) fun _ => .pure hR _
  | requestUpdate name old => exact requestUpdate_advances hcode name old
  | update names => exact update_advances hcode names
  | performUpdate => exact .bind hR hperform fun _ => .pure hR _
  | flush limit => exact .bind hR (Element.flush_advances hR hperform limit) fun _ => .pure hR _
  | complete =>
    refine .bind hR ?_ fun _ => .pure hR _
    exact Element.complete_advances hR hasks.element (Element.flush_advances hR hperform)
  | connect => exact connect_advances hcode
  | disconnect => exact .bind hR (hasks.element.modify hR _) fun _ => disposal_advances hcode
  | dispose => exact disposal_advances hcode
  | forward binding args named =>
    refine .bind hR ?_ fun _ => .pure hR _
    exact (adapter d code).forward_advances hR hasks (fun _ => .anything hcode) binding
  | bridge event detail => exact hdispatch _ detail
  | dispatch type detail => exact hdispatch type detail
  | adjust f => exact hasks.element.modify hR f
  | look => exact .change looked_proceeds

theorem behave_advances (depth : Nat) : Advances Proceeds (behave (V := V) d depth) := by
  -- What is called at some depth asks for operations that call code of less depth.
  induction depth with
  | zero => exact .pure proceeds_isStep ()
  | succ n ih => exact .often proceeds_isStep (.choose (run_advances ih))

theorem possibly_advances (op : Operation V) : Advances Proceeds (op.possibly d) :=
  .choose fun depth => run_advances (behave_advances depth) op

/-! ## Runs -/

theorem runs_advances {ops : List (Operation V)}
    (hrun : Possibly.Runs (Operation.possibly d) ops v w) : Proceeds v w :=
  hrun.advances proceeds_isStep fun op _ => possibly_advances op

theorem update_phase {names : List String} (h : (Operation.update names).possibly d v (.ok (), w)) :
    w.state.phase = .converted := by
  obtain ⟨depth, t, hrun, rfl⟩ := h
  obtain ⟨target, s, -, hrest⟩ := bind_ok hrun
  obtain ⟨failures, x, -, hrest⟩ := bind_ok hrest
  have hreport := (Ends.modify _ _ _ x).bind_iff.1 hrest
  cases hfailures : failures.head? with
  | some fault =>
    simp only [hfailures] at hreport
    cases hreport
  | none =>
    simp only [hfailures] at hreport
    obtain ⟨-, rfl⟩ := Prod.mk.inj hreport
    rfl

/-- Whatever calls the adapter back, and whenever it does: an adapter in the phase `disposed` has
no target, and it has none if and only if a disposal has returned. It never gets one again, and
its phase is settled then. As long as no disposal returned while an update or a connection was
underway, an adapter without target is in the phase `disposed`, and no other phase was read off it
since a disposal had returned. An update that returns leaves the phase `converted` behind, even if
the target was let go of in the meantime, and then the phase is never `disposed` again. -/
theorem disposed_unless_interrupted {ops : List (Operation V)} (hnew : IsNew v)
    (hrun : Possibly.Runs (Operation.possibly d) ops v w) :
    (w.state.phase = .disposed → w.state.target = none) ∧
      (w.isFreed = true ↔ w.state.target = none) ∧
      (w.state.target = none → ∀ later x, Possibly.Runs (Operation.possibly d) later w x →
        x.state.target = none ∧ (x.state.phase = .disposed ↔ w.state.phase = .disposed)) ∧
      (w.isInterrupted = false →
        (w.state.phase = .disposed ↔ w.state.target = none) ∧
          ∀ phase ∈ w.readings, phase = .disposed) ∧
      ∀ names x, (Operation.update names).possibly d w (.ok (), x) →
        x.state.phase = .converted ∧
          (x.state.target = none → ∀ later y, Possibly.Runs (Operation.possibly d) later x y →
            y.state.phase ≠ .disposed) := by
  have hsound := (runs_advances hrun).sound hnew.isSound
  refine ⟨hsound.released, hsound.isFreed_iff, fun hgone later x hlater => ?_, fun hw => ?_,
    fun names x hupdate => ?_⟩
  · have hproceeds := runs_advances hlater
    exact ⟨hproceeds.gone hgone, hproceeds.settled hgone⟩
  · exact ⟨⟨hsound.released, hsound.lawful hw⟩, hsound.readings hw⟩
  · have hphase := update_phase hupdate
    refine ⟨hphase, fun hgone later y hlater => ?_⟩
    rw [Ne, (runs_advances hlater).settled hgone, hphase]
    simp

end Adapter

/-! ## A disposal in the middle of an update -/

/-- Adapters of a class with one property. -/
def sizedDefinition : AdapterDefinition (Item Nat) where
  className := "Box"
  metadata := { Metadata.empty with properties := [("size", ⟨"size", .scalar "number", "how long it is"⟩)] }
  attributes := ["size"]
  methods := []
  statics := []
  eventPrefix := "on-"
  shadowed := []

/-- A new adapter. -/
def newWorld : ReentrantWorld Nat where
  element := .empty
  state := ⟨.constructed, [], some (.thing .target)⟩
  underway := 0
  isFreed := false
  isInterrupted := false
  readings := []

/-- The adapter after an update in which it was disposed of. -/
def revivedWorld : ReentrantWorld Nat :=
  { newWorld with state := ⟨.converted, [], none⟩, isFreed := true, isInterrupted := true }

theorem dispose_reached (v : ReentrantWorld Nat) {target : Item Nat}
    (htarget : v.state.target = some target) (hhandlers : v.state.handlers = []) :
    behave sizedDefinition 1 v (.ok (), v.released.freed) := by
  let a := notingAdapter sizedDefinition (behave sizedDefinition 0)
  -- The target has no method that takes handlers off, and nothing to free.
  have hdispose : a.dispose v (.ok (), v.released) := by
    refine read_bind.2 ?_
    simp only [htarget]
    refine ⟨.ok (), v, ⟨.ok target, v, ⟨.ok (), rfl⟩, .ok false, v, ⟨.ok (), rfl⟩, ?_⟩, ?_⟩
    · refine (Ends.modify _ _ _ v _).2 ?_
      simp [← hhandlers]
    · refine ⟨.ok target, v, ⟨.ok (), rfl⟩, .ok false, v, ⟨.ok (), rfl⟩, ?_⟩
      exact ⟨.ok (), _, ⟨.ok _, _, rfl, rfl⟩, .ok _, _, rfl, rfl⟩
  exact ⟨1, .ok (), v.released.freed, ⟨.dispose, .ok (), v.released, hdispose, rfl⟩, rfl⟩

theorem revivedWorld_reached :
    (Operation.update ["size"]).possibly sizedDefinition newWorld (.ok (), revivedWorld) := by
  let v := newWorld.enter
  let a := notingAdapter sizedDefinition (behave sizedDefinition 1)
  let x := v.released.freed
  have hstill : behave sizedDefinition 1 v (.ok (), v) := ⟨0, rfl⟩
  -- It is the setter of the target that disposes of the adapter.
  have hset : a.setMember (.thing .target) "size" (.thing .nothing) v (.ok (), x) :=
    ⟨.ok (), dispose_reached v rfl rfl⟩
  have hconvert : a.convert (.thing .nothing) (.scalar "number") v (.ok (.thing .nothing), v) :=
    ⟨.ok (), hstill⟩
  have happly : a.applyChange (.thing .target) "size" v (.ok none, x) := by
    refine ⟨.ok (.thing .nothing), v, ⟨.ok _, v, rfl, rfl⟩, ?_⟩
    refine ⟨.ok (.ok (.thing .nothing)), v, ⟨.ok (.ok (.thing .nothing)), v, ?_, rfl⟩, ?_⟩
    · exact ⟨.ok _, v, hconvert, rfl⟩
    · exact ⟨.ok none, v, ⟨.ok (), hstill⟩, .ok (), x, hset, rfl⟩
  refine ⟨1, revivedWorld.enter, ?_, rfl⟩
  refine ⟨.ok (.thing .target), v, ⟨.ok _, v, rfl, rfl⟩, .ok [], x, ?_, ?_⟩
  · exact ⟨.ok none, x, happly, rfl⟩
  · exact ⟨.ok (), _, ⟨.ok _, _, rfl, rfl⟩, rfl⟩

theorem revived_by_update :
    Possibly.Runs (Operation.possibly sizedDefinition) [.update ["size"]] newWorld revivedWorld ∧
      revivedWorld.isFreed = true ∧ revivedWorld.state.phase = .converted ∧
      ∀ later x, Possibly.Runs (Operation.possibly sizedDefinition) later revivedWorld x →
        x.state.target = none ∧ x.state.phase ≠ .disposed := by
  have hnew : newWorld.IsNew := ⟨rfl, by simp [newWorld], rfl, rfl, rfl, rfl⟩
  have hrun : Possibly.Runs (Operation.possibly sizedDefinition) [.update ["size"]] newWorld
      revivedWorld :=
    .cons revivedWorld_reached (.nil _)
  obtain ⟨-, -, hlater, -⟩ := disposed_unless_interrupted hnew hrun
  refine ⟨hrun, rfl, rfl, fun later x hx => ?_⟩
  obtain ⟨hgone, hphase⟩ := hlater rfl later x hx
  exact ⟨hgone, fun hdisposed => by cases hphase.1 hdisposed⟩

end SceneBridge.ReentrantWorld
