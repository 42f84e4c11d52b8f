import Mathlib.Data.List.Nodup
import SceneBridge.Proofs.EventBridge

/-!
# The life of an adapter

An adapter over its whole life, from its making to its disposal and beyond. As long as it holds
its target, it knows of every handler that is registered there; disposal takes all of them off.
-/

namespace SceneBridge.AdapterWorld

open Possibly

variable {V : Type} [DecidableEq V] {d : AdapterDefinition (Item V)}
  {code : Possibly (AdapterWorld V) Unit} {v w : AdapterWorld V}

/-! ## Operations -/

/-- What is asked of the adapter, or done by others in between, over its whole life. -/
inductive LifeOperation (V : Type) where
  | use (op : Operation V)
  | readProperty (name : String)
  | requestUpdate (name : String) (old : Thing V)
  | update (names : List String)
  /-- Something that changes no more than what the adapter keeps as an element. -/
  | adjust (f : ElementState (Item V) (Item V) → ElementState (Item V) (Item V))
  /-- An event of the adapter that others dispatch. -/
  | dispatch (type : String) (detail : Thing V)
  | dispose
  | disconnect

namespace LifeOperation

/-- What the operation does among code that does `code` when it is called. -/
def run (d : AdapterDefinition (Item V)) (code : Possibly (AdapterWorld V) Unit) :
    LifeOperation V → Possibly (AdapterWorld V) Unit
  | use op => op.run d code
  | readProperty name => do let _ ← (adapter d code).property name
  | requestUpdate name old => (adapter d code).element.requestUpdate name (.thing old)
  | update names => (adapter d code).update names
  | adjust f => (adapter d code).element.state.modify f
  | dispatch type detail => (adapter d code).dispatch type (.thing detail)
  | dispose => (adapter d code).dispose
  | disconnect => (adapter d code).disconnected

/-- What the operation may come to, however deeply code outside nests its calls. -/
def possibly (d : AdapterDefinition (Item V)) (op : LifeOperation V) :
    Possibly (AdapterWorld V) Unit :=
  choose fun depth => op.run d (behave d depth)

/-- Does the operation let go of the target? -/
def isDisposal : LifeOperation V → Bool
  | dispose | disconnect => true
  | _ => false

end LifeOperation

/-! ## Code outside -/

/-- The adapter is left as it is, but for its element, and so are its handlers with the target. -/
structure KeepsHandlers (v w : AdapterWorld V) : Prop where
  state : w.state = v.state
  handled : ∀ event, w.handled event = v.handled event

theorem keepsHandlers_isStep : IsStep (KeepsHandlers (V := V)) where
  refl _ := ⟨rfl, fun _ => rfl⟩
  trans h₁ h₂ := ⟨h₂.state.trans h₁.state, fun event => (h₂.handled event).trans (h₁.handled event)⟩

theorem keepsHandlers_ignores : Ignores (KeepsHandlers (V := V)) where
  step := keepsHandlers_isStep
  element _ _ := ⟨rfl, fun _ => rfl⟩
  on w _ listener := ⟨rfl, handled_of_on w _ listener⟩
  off w _ listener := ⟨rfl, handled_of_off w _ listener⟩
  raised _ _ := ⟨rfl, fun _ => rfl⟩
  dispatched _ _ := ⟨rfl, fun _ => rfl⟩

theorem admits_keepsHandlers (depth : Nat) : Admits KeepsHandlers (behave (V := V) d depth) :=
  keepsHandlers_ignores.admits (behave_ignores keepsHandlers_ignores depth)

/-- Steps of an operation that lets the adapter keep its target. -/
theorem LifeOperation.run_advances {R : AdapterWorld V → AdapterWorld V → Prop}
    (h : Admits R code) (hnoted : ∀ w, R w (noted w)) (hupdated : ∀ w, R w (updated w))
    (hconnect : Advances R (adapter d code).connected) {op : LifeOperation V}
    (hdispatch : ∀ type detail, op = .dispatch type detail →
      Advances R ((adapter d code).dispatch type (.thing detail)))
    (hop : op.isDisposal = false) : Advances R (op.run d code) := by
  have hR := h.step
  have hasks := adapter_asks (d := d) h
  cases op with
  | use op => exact AdapterWorld.run_advances h hnoted (fun _ => hupdated) fun _ => hconnect
  | readProperty name =>
    exact .bind hR ((adapter d _).property_advances hR hasks name) fun _ => .pure hR _
  | requestUpdate name old =>
    refine (bareAdapter d _).requestUpdate_advances hR (bareAdapter_asks h) ?_ name _
    exact (cell_modify _ _ _).symm ▸ Advances.change hnoted
  | update names =>
    refine (adapter d _).update_advances hR hasks ?_ names
    exact (cell_modify _ _ _).symm ▸ Advances.change hupdated
  | adjust f => exact hasks.element.modify hR f
  | dispatch type detail => exact hdispatch type detail rfl
  | dispose => cases hop
  | disconnect => cases hop

/-! ## An adapter with its target -/

/-- The adapter has its target, and knows of every handler that is registered there. -/
structure HoldsTarget (w : AdapterWorld V) : Prop where
  target : w.state.target = some (.thing .target)
  own : ∀ p ∈ w.state.handlers, p.2 = .handler p.1
  known : ∀ event name, name ∈ w.handled event →
    event = .thing (.text name) ∧ name ∈ w.state.handlers.map (·.1)
  once : ∀ event, (w.handled event).Nodup

/-- If the adapter had its target, it still does. -/
def KeepsTarget (v w : AdapterWorld V) : Prop :=
  HoldsTarget v → HoldsTarget w

theorem keepsTarget_isStep : IsStep (KeepsTarget (V := V)) :=
  .of_invariant HoldsTarget

theorem KeepsTarget.of_eq (htarget : w.state.target = v.state.target)
    (hhandlers : w.state.handlers = v.state.handlers)
    (hhandled : ∀ event, w.handled event = v.handled event) : KeepsTarget v w := by
  intro h
  refine ⟨htarget.trans h.target, ?_, fun event name hname => ?_, fun event => ?_⟩
  · rw [hhandlers]
    exact h.own
  · rw [hhandled] at hname
    rw [hhandlers]
    exact h.known event name hname
  · rw [hhandled]
    exact h.once event

theorem keepsTarget_ignores : Ignores (KeepsTarget (V := V)) where
  step := keepsTarget_isStep
  element _ _ := .of_eq rfl rfl fun _ => rfl
  on w _ listener := .of_eq rfl rfl (handled_of_on w _ listener)
  off w _ listener := .of_eq rfl rfl (handled_of_off w _ listener)
  raised _ _ := .of_eq rfl rfl fun _ => rfl
  dispatched _ _ := .of_eq rfl rfl fun _ => rfl

theorem admits_keepsTarget (depth : Nat) : Admits KeepsTarget (behave (V := V) d depth) :=
  keepsTarget_ignores.admits (behave_ignores keepsTarget_ignores depth)

/-! ## Connecting -/

theorem subscribe_keepsTarget (w : AdapterWorld V) (event : String) :
    KeepsTarget w (w.subscribe event) := by
  intro h
  refine ⟨h.target, ?_, fun other name hname => ?_, fun other => ?_⟩
  · intro p hp
    rcases List.mem_append.1 hp with hp | hp
    · exact h.own p hp
    · rw [List.mem_singleton.1 hp]
  · rw [handled_subscribe] at hname
    split at hname
    · rename_i hnew
      rcases List.mem_append.1 hname with hname | hname
      · obtain ⟨hother, hmem⟩ := h.known other name hname
        refine ⟨hother, ?_⟩
        simp [subscribe, hmem]
      · obtain rfl := List.mem_singleton.1 hname
        exact ⟨hnew.1, by simp [subscribe]⟩
    · obtain ⟨hother, hmem⟩ := h.known other name hname
      refine ⟨hother, ?_⟩
      simp [subscribe, hmem]
  · rw [handled_subscribe]
    split
    · rename_i hnew
      refine (h.once other).append (List.nodup_singleton event) ?_
      simpa using hnew.2
    · exact h.once other

theorem connect_keepsTarget (w : AdapterWorld V) : KeepsTarget w (connect d w) := by
  have hfold (events : List String) (u : AdapterWorld V) :
      KeepsTarget u (events.foldl subscribe u) := by
    induction events generalizing u with
    | nil => exact keepsTarget_isStep.refl u
    | cons e es ih => exact keepsTarget_isStep.trans (subscribe_keepsTarget u e) (ih _)
  let u : AdapterWorld V := { w with element := { w.element with isConnected := true } }
  have hu : KeepsTarget w u := .of_eq rfl rfl fun _ => rfl
  unfold connect
  split
  · have hsubscribed := keepsTarget_isStep.trans hu (hfold (d.metadata.events.map (·.1)) u)
    exact keepsTarget_isStep.trans hsubscribed (.of_eq rfl rfl fun _ => rfl)
  · exact hu

/-! ## Letting go of the target -/

/-- A handler is taken off the target. -/
def unsubscribe (w : AdapterWorld V) (p : String × Item V) : AdapterWorld V :=
  { w with listeners := w.listeners.off (.thing (.text p.1)) p.2 }

/-- All handlers of the adapter are taken off the target. -/
def release (w : AdapterWorld V) : AdapterWorld V :=
  let u := w.state.handlers.foldl unsubscribe w
  { u with state := { u.state with handlers := [] } }

theorem unbindEvents_ends (w : AdapterWorld V) :
    Ends ((adapter d code).unbindEvents (.thing .target)) w () w.release := by
  have hone (v : AdapterWorld V) (p : String × Item V) :
      Ends (do
        let _ ← (adapter d code).call (.thing .off) [(adapter d code).textValue p.1, p.2] []) v ()
        (v.unsubscribe p) :=
    .bind (.bind (.modify _ _ _ _) (.pure _ _)) (.pure _ _)
  have hpeek : Ends ((adapter d code).peek (.thing .target) "off") w (.thing .off) w := .pure _ _
  have hcallable : Ends ((adapter d code).isCallable (.thing .off)) w true w := .pure _ _
  have hstate (v : AdapterWorld V) : Ends (adapter d code).state.get v v.state v := .read _ v
  -- Taking a handler off does nothing to the list of handlers.
  have hall := Ends.walk AdapterState.handlers hstate hone (fun _ _ => rfl) 0
    (w.state.handlers.length + Adapter.usualGrowth) w (by omega)
  exact .bind hpeek (.bind hcallable (.bind (hstate w) (.bind hall (.modify _ _ _ _))))

theorem filterMap_bridged_erase_handler (ls : List (Item V)) (name : String) :
    (ls.erase (.handler name)).filterMap Item.bridged? =
      (ls.filterMap Item.bridged?).erase name := by
  induction ls with
  | nil => rfl
  | cons l ls ih =>
    cases l with
    | thing t =>
      rw [List.erase_cons_tail (by simp), List.filterMap_cons, List.filterMap_cons, ih]
      rfl
    | handler other =>
      by_cases h : other = name
      · subst h
        simp
      · rw [List.erase_cons_tail (by simpa using h)]
        simp [ih, List.erase_cons_tail, h]

theorem handled_unsubscribe (w : AdapterWorld V) (name : String) (event : Item V) :
    (w.unsubscribe (name, .handler name)).handled event =
      if event = .thing (.text name) then (w.handled event).erase name else w.handled event := by
  unfold handled unsubscribe Listeners.off
  dsimp only
  by_cases hevent : event = .thing (.text name)
  · subst hevent
    rw [if_pos rfl]
    split
    · rw [Listeners.of_put_self, filterMap_bridged_erase_handler]
    · rename_i hnone
      rw [List.contains_iff_mem, handler_mem_iff] at hnone
      rw [List.erase_of_not_mem hnone]
  · rw [if_neg hevent]
    split
    · rw [Listeners.of_put_of_ne _ _ hevent]
    · rfl

/-- The adapter has no handler with its target. -/
def IsUnheard (w : AdapterWorld V) : Prop :=
  ∀ event, w.handled event = []

theorem foldl_unsubscribe_isUnheard {ps : List (String × Item V)} {w : AdapterWorld V}
    (hown : ∀ p ∈ ps, p.2 = .handler p.1)
    (hknown : ∀ event name, name ∈ w.handled event →
      event = .thing (.text name) ∧ name ∈ ps.map (·.1))
    (honce : ∀ event, (w.handled event).Nodup) : IsUnheard (ps.foldl unsubscribe w) := by
  -- The handlers that are registered are always among those that are still to be taken off.
  induction ps generalizing w with
  | nil =>
    intro event
    refine List.eq_nil_iff_forall_not_mem.2 fun name hname => ?_
    cases (hknown event name hname).2
  | cons p ps ih =>
    obtain ⟨name, handler⟩ := p
    obtain rfl : handler = .handler name := hown _ List.mem_cons_self
    refine ih (fun p hp => hown p (List.mem_cons_of_mem _ hp)) (fun event other hother => ?_)
      fun event => ?_
    · rw [handled_unsubscribe] at hother
      split at hother
      · rename_i hevent
        obtain ⟨hne, hmem⟩ := (honce event).mem_erase_iff.1 hother
        obtain ⟨hat, hlisted⟩ := hknown event other hmem
        exact ⟨hat, by simpa [hne] using hlisted⟩
      · rename_i hevent
        obtain ⟨hat, hlisted⟩ := hknown event other hother
        have hne : other ≠ name := by
          rintro rfl
          exact hevent hat
        exact ⟨hat, by simpa [hne] using hlisted⟩
    · rw [handled_unsubscribe]
      split
      · exact (honce event).erase name
      · exact honce event

theorem release_isUnheard (h : HoldsTarget w) : IsUnheard w.release :=
  foldl_unsubscribe_isUnheard h.own h.known h.once

theorem release_state (w : AdapterWorld V) : w.release.state = { w.state with handlers := [] } := by
  have hfold (ps : List (String × Item V)) (u : AdapterWorld V) :
      (ps.foldl unsubscribe u).state = u.state := by
    induction ps generalizing u with
    | nil => rfl
    | cons p ps ih => exact ih (u.unsubscribe p)
  simp [release, hfold]

/-! ## Disposal -/

/-- The adapter has let go of its target. -/
structure IsDisposed (w : AdapterWorld V) : Prop where
  phase : w.state.phase = .disposed
  target : w.state.target = none
  unheard : IsUnheard w

/-- The adapter lets go of its target at the end of a disposal. -/
def letGo (w : AdapterWorld V) : AdapterWorld V :=
  { w with state := ⟨.disposed, w.state.handlers, none⟩ }

/-- A disposal takes the handlers off first. What the target does to free what it holds may fail
then, and the adapter lets go of its target only if it does not. -/
theorem dispose_cases {R : AdapterWorld V → AdapterWorld V → Prop} (hadmits : Admits R code)
    (h : v.state.target = some (.thing .target)) {outcome : Except Fault Unit}
    (hrun : (adapter d code).dispose v (outcome, w)) :
    ∃ t, R v.release t ∧ (outcome = .ok () ∧ w = t.letGo ∨ outcome ≠ .ok () ∧ w = t) := by
  have hR := hadmits.step
  have hlast (t : AdapterWorld V) : Ends (do
      (adapter d code).state.modify ({ · with target := none })
      (adapter d code).state.modify ({ · with phase := .disposed })) t () t.letGo :=
    .bind (.modify _ _ _ t) (.modify _ _ _ _)
  have hfault (fault : Fault) : Except.error fault ≠ Except.ok () := by simp
  have hrest := read_bind.1 hrun
  simp only [h] at hrest
  have hfree := (unbindEvents_ends v).bind_iff.1 hrest
  rcases bind_cases hfree with ⟨fault, rfl, hpeek⟩ | ⟨free, t, hpeek, hrest⟩
  · exact ⟨w, (adapter_asks hadmits).peek _ _ _ _ _ hpeek, .inr ⟨hfault fault, rfl⟩⟩
  have ht : R v.release t := (adapter_asks hadmits).peek _ _ _ _ _ hpeek
  have hcallable : Advances R ((adapter d code).isCallable free) :=
    .ite (fun _ => .pure hR _) fun _ => .anything hadmits.code
  rcases bind_cases hrest with ⟨fault, rfl, hask⟩ | ⟨callable, u, hask, hrest⟩
  · exact ⟨w, hR.trans ht (hcallable _ _ _ hask), .inr ⟨hfault fault, rfl⟩⟩
  have hu : R v.release u := hR.trans ht (hcallable _ _ _ hask)
  cases callable with
  | false =>
    obtain ⟨rfl, rfl⟩ := Prod.mk.inj ((hlast u _).1 hrest)
    exact ⟨u, hu, .inl ⟨rfl, rfl⟩⟩
  | true =>
    have hcall := call_advances hadmits free []
    rcases bind_cases hrest with ⟨fault, rfl, hfreed⟩ | ⟨_, x, hfreed, hrest⟩
    · exact ⟨w, hR.trans hu (hcall _ _ _ hfreed), .inr ⟨hfault fault, rfl⟩⟩
    · obtain ⟨rfl, rfl⟩ := Prod.mk.inj ((hlast x _).1 hrest)
      exact ⟨x, hR.trans hu (hcall _ _ _ hfreed), .inl ⟨rfl, rfl⟩⟩

/-- What is left of an adapter that had its target once a disposal has come to its end. -/
theorem dispose_state (depth : Nat) {outcome : Except Fault Unit} (h : HoldsTarget v)
    (hrun : (adapter d (behave d depth)).dispose v (outcome, w)) :
    IsUnheard w ∧ (outcome = .ok () ∧ w.state = ⟨.disposed, [], none⟩ ∨
      outcome ≠ .ok () ∧ w.state = { v.state with handlers := [] }) := by
  obtain ⟨t, ht, hends⟩ := dispose_cases (admits_keepsHandlers depth) h.target hrun
  have hunheard : IsUnheard t := fun event => (ht.handled event).trans (release_isUnheard h event)
  have hstate : t.state = { v.state with handlers := [] } := ht.state.trans (release_state v)
  rcases hends with ⟨hok, rfl⟩ | ⟨hfailed, rfl⟩
  · exact ⟨hunheard, .inl ⟨hok, by simp [letGo, hstate]⟩⟩
  · exact ⟨hunheard, .inr ⟨hfailed, hstate⟩⟩

/-- A disposal that returns has let go of the target; one that fails has taken its handlers off. -/
theorem dispose_ends (depth : Nat) {outcome : Except Fault Unit} (h : HoldsTarget v)
    (hrun : (adapter d (behave d depth)).dispose v (outcome, w)) :
    outcome = .ok () ∧ IsDisposed w ∨ outcome ≠ .ok () ∧ HoldsTarget w := by
  obtain ⟨hunheard, ⟨hok, hstate⟩ | ⟨hfailed, hstate⟩⟩ := dispose_state depth h hrun
  · exact .inl ⟨hok, by rw [hstate], by rw [hstate], hunheard⟩
  refine .inr ⟨hfailed, by rw [hstate, h.target], by simp [hstate], fun event name hname => ?_,
    fun event => ?_⟩
  · rw [hunheard] at hname
    cases hname
  · rw [hunheard]
    exact List.nodup_nil

end SceneBridge.AdapterWorld
