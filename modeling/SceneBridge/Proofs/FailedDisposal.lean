import SceneBridge.Proofs.Disposal

/-!
# Disposals that fail

What is left of an adapter whose target fails to free what it holds. The handlers are taken off
before that, and nothing puts them back: the adapter still has its target and says that it is
bound, but none of its handlers is registered. Connecting it again does not help, since only an
adapter to which nothing has happened registers its handlers.
-/

namespace SceneBridge.AdapterWorld

open Possibly LifeOperation

variable {V : Type} [DecidableEq V] {d : AdapterDefinition (Item V)} {v w : AdapterWorld V}

/-! ## All or nothing -/

/-- What was done to the adapter is to dispose of it for good, or else nothing: it is in the phase
that it was in, and has the target and the handlers that it had. -/
def IsAllOrNothing (v w : AdapterWorld V) : Prop :=
  IsDisposed w ∨
    w.state.phase = v.state.phase ∧ w.state.target = v.state.target ∧
      ∀ event, w.handled event = v.handled event

theorem disposal_state (h : HoldsTarget v) {op : LifeOperation V} (hop : op.isDisposal = true)
    {outcome : Except Fault Unit} (hrun : op.possibly d v (outcome, w)) :
    IsUnheard w ∧ (outcome = .ok () ∧ w.state = ⟨.disposed, [], none⟩ ∨
      outcome ≠ .ok () ∧ w.state = { v.state with handlers := [] }) := by
  obtain ⟨depth, hrun⟩ := hrun
  cases op with
  | dispose => exact dispose_state depth h hrun
  | disconnect =>
    let u := { v with element := { v.element with isConnected := false } }
    have hu : HoldsTarget u := ⟨h.target, h.own, h.known, h.once⟩
    have hrest := (Ends.modify _ _ _ v).bind_iff.1 hrun
    exact dispose_state (v := u) depth hu hrest
  | _ => cases hop

/-! ## Adapters that were not connected -/

/-- The adapter has its target, and registers no handler before it is connected. -/
structure IsLive (w : AdapterWorld V) : Prop extends HoldsTarget w where
  early : w.state.phase = .constructed → IsUnheard w

/-- If the adapter was live, it still is. -/
def KeepsLive (v w : AdapterWorld V) : Prop :=
  IsLive v → IsLive w

theorem keepsLive_isStep : IsStep (KeepsLive (V := V)) :=
  .of_invariant IsLive

theorem IsNew.isLive (h : IsNew w) : IsLive w :=
  { h.holdsTarget with early := fun _ => h.handled }

theorem KeepsLive.of_keepsHandlers (h : KeepsHandlers v w) : KeepsLive v w := by
  intro hlive
  have htarget : w.state.target = v.state.target := by rw [h.state]
  have hhandlers : w.state.handlers = v.state.handlers := by rw [h.state]
  refine { KeepsTarget.of_eq htarget hhandlers h.handled hlive.toHoldsTarget with
    early := fun hphase event => ?_ }
  rw [h.state] at hphase
  exact (h.handled event).trans (hlive.early hphase event)

theorem admits_keepsLive (depth : Nat) : Admits KeepsLive (behave (V := V) d depth) :=
  (admits_keepsHandlers depth).mono keepsLive_isStep fun _ _ => .of_keepsHandlers

theorem noted_keepsLive (w : AdapterWorld V) : KeepsLive w (noted w) := by
  intro hlive
  refine { noted_keepsTarget w hlive.toHoldsTarget with early := fun hphase => ?_ }
  -- A phase that moves on is not `constructed` then.
  unfold noted at hphase
  split at hphase
  · cases hphase
  · exact hlive.early hphase

theorem possibly_keepsLive {op : LifeOperation V} (hop : op.isDisposal = false) :
    Advances KeepsLive (op.possibly d) := by
  refine .choose fun depth => ?_
  have hadmits := admits_keepsLive (V := V) (d := d) depth
  refine LifeOperation.run_advances hadmits noted_keepsLive ?_ ?_ ?_ hop
  · intro u hlive
    refine ⟨⟨hlive.target, hlive.own, hlive.known, hlive.once⟩, fun hphase => ?_⟩
    cases hphase
  · intro u outcome t hrun hlive
    obtain ⟨-, rfl⟩ := Prod.mk.inj ((connected_ends hlive.target _).1 hrun)
    refine { connect_keepsTarget u hlive.toHoldsTarget with early := fun hphase => ?_ }
    exact absurd hphase (connect_phase u)
  · intro type detail _
    exact (keepsHandlers_ignores.dispatch (admits_keepsHandlers depth).code type _).mono
      fun _ _ => .of_keepsHandlers

/-- Throughout its life, the adapter is live or has let go of its target. -/
theorem runs_of_isLive {ops : List (LifeOperation V)} (h : IsLive v)
    (hrun : Possibly.Runs (LifeOperation.possibly d) ops v w) : IsLive w ∨ IsDisposed w := by
  induction hrun with
  | nil v => exact .inl h
  | @cons op ops u v w outcome hfirst hrest ih =>
    cases hop : op.isDisposal with
    | false => exact ih (possibly_keepsLive hop _ _ _ hfirst h)
    | true =>
      rcases disposal_ends h.toHoldsTarget hop hfirst with ⟨-, hdisposed⟩ | ⟨-, hholds⟩
      · exact .inr (runs_of_disposed hdisposed hrest).1
      · have hunheard := (disposal_state h.toHoldsTarget hop hfirst).1
        exact ih { hholds with early := fun _ => hunheard }

/-! ## Adapters that hear nothing -/

/-- No handler of the adapter is registered, and connecting it registers none. -/
structure IsDeaf (w : AdapterWorld V) : Prop where
  unheard : IsUnheard w
  phase : w.state.phase ≠ .constructed

/-- If the adapter was deaf, it still is, and nothing was dispatched. -/
def StaysDeaf (v w : AdapterWorld V) : Prop :=
  IsDeaf v → IsDeaf w ∧ w.dispatched = v.dispatched

theorem staysDeaf_isStep : IsStep (StaysDeaf (V := V)) where
  refl _ h := ⟨h, rfl⟩
  trans h₁ h₂ h := by
    obtain ⟨hdeaf, hdispatched⟩ := h₁ h
    obtain ⟨hdeaf', hdispatched'⟩ := h₂ hdeaf
    exact ⟨hdeaf', hdispatched'.trans hdispatched⟩

theorem StaysDeaf.of_isSilent (h : IsSilent v w) : StaysDeaf v w := by
  intro hdeaf
  obtain ⟨hstate, hunheard, hdispatched⟩ := h hdeaf.unheard
  exact ⟨⟨hunheard, hstate ▸ hdeaf.phase⟩, hdispatched⟩

theorem admits_staysDeaf (depth : Nat) : Admits StaysDeaf (behave (V := V) d depth) :=
  (isSilent_admits (behave_isSilent depth)).mono staysDeaf_isStep fun _ _ => .of_isSilent

theorem noted_staysDeaf (w : AdapterWorld V) : StaysDeaf w (noted w) := by
  intro hdeaf
  refine ⟨⟨hdeaf.unheard, ?_⟩, rfl⟩
  unfold noted
  split
  · simp
  · exact hdeaf.phase

theorem connected_staysDeaf (code : Possibly (AdapterWorld V) Unit) :
    Advances StaysDeaf (adapter d code).connected := by
  intro u outcome t hrun hdeaf
  cases htarget : u.state.target with
  | none =>
    obtain ⟨-, rfl⟩ := Prod.mk.inj (((requireTarget_breaks htarget).bind _).1 hrun)
    exact ⟨hdeaf, rfl⟩
  | some target =>
    let c := { u with element := { u.element with isConnected := true } }
    have hconnected : Ends (adapter d code).connected u () c := by
      refine .bind ((adapter d code).requireTarget_ends (.read _ u) htarget) ?_
      refine .bind (.modify _ _ _ u) (.bind (.read _ c) ?_)
      rw [if_neg hdeaf.phase]
      exact .pure () c
    obtain ⟨-, rfl⟩ := Prod.mk.inj ((hconnected _).1 hrun)
    exact ⟨⟨hdeaf.unheard, hdeaf.phase⟩, rfl⟩

theorem possibly_of_deaf (h : IsDeaf v) {op : LifeOperation V} (hop : op.isDisposal = false)
    {outcome : Except Fault Unit} (hrun : op.possibly d v (outcome, w)) :
    IsDeaf w ∧ w.dispatched = v.dispatched ++ op.event?.toList := by
  obtain ⟨depth, hrun⟩ := hrun
  cases hevent : op.event? with
  | some event =>
    cases op with
    | dispatch type detail =>
      obtain rfl := Option.some.inj hevent
      let u := { v with dispatched := v.dispatched ++ [(type, Item.thing detail)] }
      have hsilent := announce_advances isSilent_isStep (behave_isSilent (d := d) depth) _ _ _ _
        (change_bind.1 hrun)
      exact StaysDeaf.of_isSilent hsilent (v := u) ⟨h.unheard, h.phase⟩
    | _ => cases hevent
  | none =>
    have hstays : Advances StaysDeaf (op.run d (behave d depth)) := by
      refine LifeOperation.run_advances (admits_staysDeaf depth) noted_staysDeaf ?_
        (connected_staysDeaf _) ?_ hop
      · exact fun u hdeaf => ⟨⟨hdeaf.unheard, by simp [updated]⟩, rfl⟩
      · rintro type detail rfl
        cases hevent
    simpa using hstays _ _ _ hrun h

theorem release_dispatched (w : AdapterWorld V) : w.release.dispatched = w.dispatched := by
  have hfold (ps : List (String × Item V)) (u : AdapterWorld V) :
      (ps.foldl unsubscribe u).dispatched = u.dispatched := by
    induction ps generalizing u with
    | nil => rfl
    | cons p ps ih => exact ih (u.unsubscribe p)
  simp [release, hfold]

/-- A deaf adapter dispatches nothing while it is disposed of. -/
theorem disposal_of_deaf (hholds : HoldsTarget v) (h : IsDeaf v) {op : LifeOperation V}
    (hop : op.isDisposal = true) {outcome : Except Fault Unit}
    (hrun : op.possibly d v (outcome, w)) : IsDeaf w ∧ w.dispatched = v.dispatched := by
  have hdispose {u : AdapterWorld V} (hu : HoldsTarget u) (hdeaf : IsDeaf u) (depth : Nat)
      (hrun : (adapter d (behave d depth)).dispose u (outcome, w)) :
      IsDeaf w ∧ w.dispatched = u.dispatched := by
    have hreleased : IsDeaf u.release :=
      ⟨release_isUnheard hu, by simpa [release_state] using hdeaf.phase⟩
    obtain ⟨t, ht, hends⟩ := dispose_cases (admits_staysDeaf depth) hu.target hrun
    obtain ⟨hdeaf', hdispatched⟩ := ht hreleased
    rw [release_dispatched] at hdispatched
    rcases hends with ⟨-, rfl⟩ | ⟨-, rfl⟩
    · exact ⟨⟨hdeaf'.unheard, by simp [letGo]⟩, hdispatched⟩
    · exact ⟨hdeaf', hdispatched⟩
  obtain ⟨depth, hrun⟩ := hrun
  cases op with
  | dispose => exact hdispose hholds h depth hrun
  | disconnect =>
    let u := { v with element := { v.element with isConnected := false } }
    have hu : HoldsTarget u := ⟨hholds.target, hholds.own, hholds.known, hholds.once⟩
    have hrest := (Ends.modify _ _ _ v).bind_iff.1 hrun
    exact hdispose (u := u) hu ⟨h.unheard, h.phase⟩ depth hrest
  | _ => cases hop

/-- Nothing makes a deaf adapter hear again. -/
theorem runs_of_deaf {ops : List (LifeOperation V)} (hholds : HoldsTarget v) (h : IsDeaf v)
    (hrun : Possibly.Runs (LifeOperation.possibly d) ops v w) :
    IsUnheard w ∧ w.dispatched = v.dispatched ++ ops.filterMap event? := by
  induction hrun with
  | nil v => exact ⟨h.unheard, by simp⟩
  | @cons op ops u v w outcome hfirst hrest ih =>
    have hmore (h : w.dispatched = v.dispatched ++ ops.filterMap event?)
        (hv : v.dispatched = u.dispatched ++ op.event?.toList) :
        w.dispatched = u.dispatched ++ (op :: ops).filterMap event? := by
      rw [h, hv, List.append_assoc]
      cases hevent : op.event? <;> simp [hevent]
    -- After a disposal the target may be gone, which is the other way not to hear of its events.
    cases hop : op.isDisposal with
    | false =>
      obtain ⟨hdeaf, hdispatched⟩ := possibly_of_deaf h hop hfirst
      obtain ⟨hlast, hrest⟩ := ih (possibly_keepsTarget hop _ _ _ hfirst hholds) hdeaf
      exact ⟨hlast, hmore hrest hdispatched⟩
    | true =>
      obtain ⟨hdeaf, hdispatched⟩ := disposal_of_deaf hholds h hop hfirst
      have hnone : op.event? = none := by
        cases op with
        | dispatch type detail => cases hop
        | _ => rfl
      have hfirst' : v.dispatched = u.dispatched ++ op.event?.toList := by
        simpa [hnone] using hdispatched
      rcases disposal_ends hholds hop hfirst with ⟨-, hdisposed⟩ | ⟨-, hstill⟩
      · obtain ⟨hlast, hrest⟩ := runs_of_disposed hdisposed hrest
        exact ⟨hlast.unheard, hmore hrest hfirst'⟩
      · obtain ⟨hlast, hrest⟩ := ih hstill hdeaf
        exact ⟨hlast, hmore hrest hfirst'⟩

/-! ## Disposals that fail -/

/-- Whatever was done with an adapter before, a disposal of it while it has its target is all or
nothing if it returns, and also if it fails but no handler was registered. If it fails while some
handler is registered, the adapter is left with its target and in its phase, but without handlers,
and whatever is done from then on, it hears no event of the target again. -/
theorem all_or_nothing_unless_failed {before after : List (LifeOperation V)} {op : LifeOperation V}
    {outcome : Except Fault Unit} {x y : AdapterWorld V} (hnew : IsNew v)
    (hbefore : Possibly.Runs (LifeOperation.possibly d) before v w) (hlive : w.state.target ≠ none)
    (hop : op.isDisposal = true) (hdisposal : op.possibly d w (outcome, x))
    (hafter : Possibly.Runs (LifeOperation.possibly d) after x y) :
    (IsAllOrNothing w x ↔ outcome = .ok () ∨ IsUnheard w) ∧
      (outcome = .ok () → x.state = ⟨.disposed, [], none⟩ ∧ IsUnheard x) ∧
      (outcome ≠ .ok () → x.state = { w.state with handlers := [] } ∧ IsUnheard x) ∧
      (outcome ≠ .ok () → ¬ IsUnheard w →
        IsUnheard y ∧ y.dispatched = x.dispatched ++ after.filterMap event?) := by
  have hw : IsLive w := by
    rcases runs_of_isLive hnew.isLive hbefore with hw | hdisposed
    · exact hw
    · exact absurd hdisposed.target hlive
  obtain ⟨hunheard, ⟨rfl, hstate⟩ | ⟨hfailed, hstate⟩⟩ :=
    disposal_state hw.toHoldsTarget hop hdisposal
  · have hdisposed : IsDisposed x := ⟨by rw [hstate], by rw [hstate], hunheard⟩
    refine ⟨?_, fun _ => ⟨hstate, hunheard⟩, fun h => absurd rfl h, fun h => absurd rfl h⟩
    exact ⟨fun _ => .inl rfl, fun _ => .inl hdisposed⟩
  · refine ⟨⟨?_, ?_⟩, fun h => absurd h hfailed, fun _ => ⟨hstate, hunheard⟩, fun _ hheard => ?_⟩
    · rintro (hdisposed | ⟨-, -, hhandled⟩)
      · exact absurd hdisposed.target (by simpa [hstate] using hlive)
      · exact .inr fun event => (hhandled event).symm.trans (hunheard event)
    · rintro (hok | hnothing)
      · exact absurd hok hfailed
      · refine .inr ⟨by rw [hstate], by rw [hstate], fun event => ?_⟩
        exact (hunheard event).trans (hnothing event).symm
    -- Some handler was registered, so that the adapter was connected once.
    · have hdeaf : IsDeaf x := by
        refine ⟨hunheard, fun hphase => hheard (hw.early ?_)⟩
        simpa [hstate] using hphase
      rcases disposal_ends hw.toHoldsTarget hop hdisposal with ⟨hok, -⟩ | ⟨-, hholds⟩
      · exact absurd hok hfailed
      · exact runs_of_deaf hholds hdeaf hafter

/-! ## A handler that is lost -/

/-- A connected adapter after a disposal that failed. -/
def deafWorld : AdapterWorld Nat :=
  (connect readyDefinition newWorld).release

/-- The adapter after it was connected again and its target raised an event. -/
def reconnectedWorld : AdapterWorld Nat :=
  { deafWorld with raised := [.text "ready"] }

theorem deafWorld_reached :
    dispose.possibly readyDefinition (connect readyDefinition newWorld)
      (.error (.raised .runtime "stuck"), deafWorld) := by
  refine ⟨0, .ok _, _, rfl, .ok (), deafWorld, (unbindEvents_ends _ _).2 rfl, ?_⟩
  -- The target has something to free, and fails to.
  refine ⟨.ok (.thing (.other 0)), deafWorld, ⟨.ok (.other 0), deafWorld, ⟨.ok (), rfl⟩, rfl⟩, ?_⟩
  refine ⟨.ok true, deafWorld, ⟨.ok (), rfl⟩, .error _, deafWorld, ?_, rfl⟩
  exact ⟨.error _, deafWorld, ⟨.ok (), rfl⟩, rfl⟩

theorem reconnectedWorld_reached :
    Possibly.Runs (LifeOperation.possibly readyDefinition) [use .connect, use .elsewhere] deafWorld
      reconnectedWorld := by
  have hconnected : (use .connect).possibly readyDefinition deafWorld (.ok (), deafWorld) :=
    ⟨0, (connected_ends rfl _).2 rfl⟩
  refine .cons hconnected (.cons ⟨1, 1, .ok (), reconnectedWorld, ⟨.raise (.text "ready"), ?_⟩, rfl⟩
    (.nil _))
  refine ⟨.ok 0, deafWorld, rfl, .ok (), reconnectedWorld, rfl, ?_⟩
  exact ⟨.ok reconnectedWorld.listeners, reconnectedWorld, rfl, rfl⟩

theorem handler_lost_by_failed_disposal :
    Possibly.Runs (LifeOperation.possibly readyDefinition) [use .connect] newWorld
        (connect readyDefinition newWorld) ∧
      (connect readyDefinition newWorld).handled (.thing (.text "ready")) = ["ready"] ∧
      dispose.possibly readyDefinition (connect readyDefinition newWorld)
        (.error (.raised .runtime "stuck"), deafWorld) ∧
      ¬ IsAllOrNothing (connect readyDefinition newWorld) deafWorld ∧
      deafWorld.state = ⟨.bound, [], some (.thing .target)⟩ ∧
      Possibly.Runs (LifeOperation.possibly readyDefinition) [use .connect, use .elsewhere]
        deafWorld reconnectedWorld ∧
      reconnectedWorld.raised = [.text "ready"] ∧ reconnectedWorld.dispatched = [] := by
  have hnew : newWorld.IsNew := ⟨⟨rfl, rfl, fun _ => rfl, rfl⟩, rfl⟩
  have hbefore : Possibly.Runs (LifeOperation.possibly readyDefinition) [use .connect] newWorld
      (connect readyDefinition newWorld) :=
    .cons ⟨0, (connected_ends rfl _).2 rfl⟩ (.nil _)
  have hready :
      (connect readyDefinition newWorld).handled (.thing (.text "ready")) = ["ready"] := rfl
  have hheard : ¬ IsUnheard (connect readyDefinition newWorld) := by
    intro h
    rw [h] at hready
    cases hready
  have hlive : (connect readyDefinition newWorld).state.target ≠ none := by decide
  obtain ⟨hiff, -, hkept, hsilent⟩ :=
    all_or_nothing_unless_failed hnew hbefore hlive rfl deafWorld_reached reconnectedWorld_reached
  have hfailed : Except.error (.raised .runtime "stuck") ≠ (.ok () : Except Fault Unit) := by simp
  refine ⟨hbefore, hready, deafWorld_reached, fun h => ?_, (hkept hfailed).1,
    reconnectedWorld_reached, rfl, (hsilent hfailed hheard).2⟩
  rcases hiff.1 h with hok | hunheard
  · exact hfailed hok
  · exact hheard hunheard

end SceneBridge.AdapterWorld
