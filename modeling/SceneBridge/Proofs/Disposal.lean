import SceneBridge.Proofs.AdapterLife

/-!
# Disposal is final

An adapter that was disposed of has let go of its target for good. Whatever is asked of it
from then on comes to one end, which depends on nothing but what the adapter keeps itself:
what would need the target is refused. Events of the former target find no handler.
-/

namespace SceneBridge.AdapterWorld

open Possibly

variable {V : Type} [DecidableEq V] {d : AdapterDefinition (Item V)}
  {code : Possibly (AdapterWorld V) Unit} {v w : AdapterWorld V}

/-! ## Operations after disposal -/

namespace LifeOperation

/-- Is the operation one of the adapter that runs no listener? -/
def isQuiet : LifeOperation V → Bool
  | use .elsewhere | dispatch _ _ => false
  | _ => true

/-- The event that others dispatch by the operation. -/
def event? : LifeOperation V → Option (String × Item V)
  | dispatch type detail => some (type, .thing detail)
  | _ => none

/-- Does the operation need the target, for an adapter that keeps `s`? -/
def needsTarget (d : AdapterDefinition (Item V)) (s : ElementState (Item V) (Item V)) :
    LifeOperation V → Bool
  | use (.setProperty _ _) | use .connect | use (.forward _ _ _) | update _ => true
  | use (.setAttribute attr _) => (s.propertyFor? attr).isSome
  | use (.removeAttribute attr) => Entries.has s.attributes attr && (s.propertyFor? attr).isSome
  | use .performUpdate => s.isPending
  | use (.flush limit) => limit != 0 && s.isPending
  | readProperty name =>
    match d.metadata.computed.lookup name with
    | some info => info.hasGetter
    | none => false
  | _ => false

/-- Whatever other code does, the operation comes to one end: what the adapter keeps as an element
is `s` then, and all else is as before. -/
def Settles (d : AdapterDefinition (Item V)) (op : LifeOperation V) (w : AdapterWorld V)
    (outcome : Except Fault Unit) (s : ElementState (Item V) (Item V)) : Prop :=
  ∀ code e, op.run d code w e ↔ e = (outcome, { w with element := s })

theorem Settles.possibly_iff {op : LifeOperation V} {outcome : Except Fault Unit}
    {s : ElementState (Item V) (Item V)} {e : Except Fault Unit × AdapterWorld V}
    (h : op.Settles d w outcome s) : op.possibly d w e ↔ e = (outcome, { w with element := s }) := by
  constructor
  · rintro ⟨depth, hrun⟩
    exact (h _ e).1 hrun
  · intro he
    exact ⟨0, (h _ e).2 he⟩

/-- The operation comes to one end without the target, and is refused if it needs the target. -/
def IsGuarded (d : AdapterDefinition (Item V)) (op : LifeOperation V) (w : AdapterWorld V) : Prop :=
  ∃ outcome s, op.Settles d w outcome s ∧
    (op.needsTarget d w.element = true → outcome = .error (.disposed d.className))

variable {op : LifeOperation V} {s : ElementState (Item V) (Item V)}

theorem IsGuarded.of_ends (hends : ∀ code, Ends (op.run d code) w () { w with element := s })
    (hneeds : op.needsTarget d w.element = false) : op.IsGuarded d w := by
  refine ⟨.ok (), s, hends, fun h => ?_⟩
  rw [hneeds] at h
  cases h

theorem IsGuarded.of_breaks
    (hbreaks : ∀ code, Breaks (op.run d code) w (.disposed d.className) { w with element := s }) :
    op.IsGuarded d w :=
  ⟨_, s, hbreaks, fun _ => rfl⟩

end LifeOperation

open LifeOperation

/-! ## What is refused -/

section Refused

variable (h : w.state.target = none)

include h

theorem requireTarget_breaks :
    Breaks (adapter d code).requireTarget w (.disposed d.className) w :=
  (adapter d code).requireTarget_breaks (.read _ w) h

theorem setProperty_breaks (name : String) (value : Item V) :
    Breaks ((adapter d code).setProperty name value) w (.disposed d.className) w :=
  (requireTarget_breaks h).bind

theorem update_breaks (names : List String) :
    Breaks ((adapter d code).update names) w (.disposed d.className) w :=
  (requireTarget_breaks h).bind

/-- The batch that was waiting is lost. -/
theorem performUpdate_breaks (hpending : w.element.isPending = true) :
    Breaks (adapter d code).element.performUpdate w (.disposed d.className)
      { w with element := { w.element with changed := [] } } := by
  let u := { w with element := { w.element with changed := [] } }
  have hupdate : Breaks ((adapter d code).element.update w.element.changed) u
      (.disposed d.className) u := update_breaks (w := u) h _
  refine Ends.bind_breaks (.read _ w) ?_
  simp only [hpending]
  exact Ends.bind_breaks (.modify _ _ _ w) hupdate.bind

omit h in
theorem performUpdate_ends (hpending : w.element.isPending = false) :
    Ends (adapter d code).element.performUpdate w false w := by
  refine .bind (.read _ w) ?_
  simp only [hpending]
  exact .pure false w

theorem performUpdate_isGuarded : (use .performUpdate).IsGuarded d w := by
  by_cases hpending : w.element.isPending = true
  · exact .of_breaks fun code => (performUpdate_breaks h hpending).bind
  · have hidle : w.element.isPending = false := by simpa using hpending
    exact .of_ends (fun code => .bind (performUpdate_ends hidle) (.pure _ w)) hidle

theorem flush_isGuarded (limit : Nat) : (use (.flush limit)).IsGuarded d w := by
  cases limit with
  | zero => exact .of_ends (fun code => .bind (.pure _ w) (.pure _ w)) (by simp [needsTarget])
  | succ n =>
    by_cases hpending : w.element.isPending = true
    · exact .of_breaks fun code => (performUpdate_breaks h hpending).bind.bind
    · have hidle : w.element.isPending = false := by simpa using hpending
      refine .of_ends (fun code => .bind (a := 0) ?_ (.pure _ w)) (by simp [needsTarget, hidle])
      exact .bind (performUpdate_ends hidle) (.pure 0 w)

theorem setAttribute_isGuarded (attr text : String) :
    (use (.setAttribute attr text)).IsGuarded d w := by
  -- The attribute itself is kept by the adapter and is set in any case.
  let u := { w with
    element := { w.element with attributes := Entries.put w.element.attributes attr text } }
  have hsame : u.element.propertyFor? attr = w.element.propertyFor? attr := rfl
  cases hname : w.element.propertyFor? attr with
  | some name =>
    refine .of_breaks (s := u.element) fun code => ?_
    refine Ends.bind_breaks (.modify _ _ _ w) (Ends.bind_breaks (.read _ u) ?_)
    rw [hsame, hname]
    exact setProperty_breaks (w := u) h name _
  | none =>
    refine .of_ends (s := u.element) (fun code => ?_) (by simp [needsTarget, hname])
    refine .bind (.modify _ _ _ w) (.bind (.read _ u) ?_)
    rw [hsame, hname]
    exact .pure () u

theorem removeAttribute_isGuarded (attr : String) :
    (use (.removeAttribute attr)).IsGuarded d w := by
  by_cases hset : Entries.has w.element.attributes attr = true
  · let u := { w with
      element := { w.element with attributes := Entries.remove w.element.attributes attr } }
    cases hname : w.element.propertyFor? attr with
    | some name =>
      refine .of_breaks (s := u.element) fun code => Ends.bind_breaks (.read _ w) ?_
      simp only [hset, hname]
      exact Ends.bind_breaks (.change _ w) (setProperty_breaks (w := u) h name _)
    | none =>
      refine .of_ends (s := u.element) (fun code => .bind (.read _ w) ?_)
        (by simp [needsTarget, hname])
      simp only [hset, hname]
      exact .bind (.change _ w) (.pure () u)
  · have hunset : Entries.has w.element.attributes attr = false := by simpa using hset
    refine .of_ends (s := w.element) (fun code => .bind (.read _ w) ?_)
      (by simp [needsTarget, hunset])
    simp only [hunset]
    exact .pure () w

theorem readProperty_isGuarded (name : String) : (readProperty name).IsGuarded d w := by
  cases hcomputed : d.metadata.computed.lookup name with
  | none =>
    have hproperty (code : Possibly (AdapterWorld V) Unit) :
        (adapter d code).property name = (adapter d code).element.property name := by
      unfold Adapter.property
      split
      · rename_i info hinfo
        rw [show (adapter d code).definition = d from rfl, hcomputed] at hinfo
        cases hinfo
      · rfl
    refine .of_ends (s := w.element) (fun code => ?_) (by simp [needsTarget, hcomputed])
    rw [LifeOperation.run, hproperty]
    exact .bind (.bind (.read _ w) (.pure _ w)) (.pure _ w)
  | some info =>
    have hproperty (code : Possibly (AdapterWorld V) Unit) :
        (adapter d code).property name = (adapter d code).computed name info := by
      unfold Adapter.property
      rw [show (adapter d code).definition = d from rfl, hcomputed]
    cases hgetter : info.hasGetter with
    | true =>
      refine .of_breaks (s := w.element) fun code => ?_
      rw [LifeOperation.run, hproperty, Adapter.computed]
      simp only [hgetter]
      exact (requireTarget_breaks h).bind.bind
    | false =>
      refine ⟨.error (.writeOnly name), w.element, fun code => ?_, ?_⟩
      · rw [LifeOperation.run, hproperty, Adapter.computed]
        simp only [hgetter]
        exact (Breaks.throw _ w).bind.bind
      · simp [needsTarget, hcomputed, hgetter]

end Refused

/-! ## Every operation -/

theorem dispose_settles (h : IsDisposed w) : dispose.Settles d w (.ok ()) w.element := by
  intro code
  refine Ends.bind (.read _ w) ?_
  rw [h.target]
  exact .pure () w

theorem isGuarded_of_disposed (h : IsDisposed w) {op : LifeOperation V} (hquiet : op.isQuiet = true) :
    op.IsGuarded d w := by
  cases op with
  | use op =>
    cases op with
    | setAttribute attr text => exact setAttribute_isGuarded h.target attr text
    | removeAttribute attr => exact removeAttribute_isGuarded h.target attr
    | setProperty name value =>
      exact .of_breaks fun code => setProperty_breaks h.target name (.thing value)
    | performUpdate => exact performUpdate_isGuarded h.target
    | flush limit => exact flush_isGuarded h.target limit
    | connect => exact .of_breaks fun code => (requireTarget_breaks h.target).bind
    | forward binding args named =>
      exact .of_breaks fun code => (requireTarget_breaks h.target).bind.bind
    | listen event listener => exact .of_ends (fun code => .modify _ _ _ w) rfl
    | subscribe listener => exact .of_ends (fun code => .modify _ _ _ w) rfl
    | elsewhere => cases hquiet
  | readProperty name => exact readProperty_isGuarded h.target name
  | requestUpdate name old =>
    let u := { w with element := w.element.record name (.thing old) }
    -- The phase is left alone: the adapter is neither bound nor has it converted anything.
    have hphase : noted u = u := by simp [noted, u, h.phase]
    refine .of_ends (s := u.element) (fun code => ?_) rfl
    have hnoted : Ends ((requestUpdate name old).run d code) w () (noted u) :=
      .bind (.modify _ _ _ w) (.modify _ _ _ u)
    rw [hphase] at hnoted
    exact hnoted
  | update names => exact .of_breaks fun code => update_breaks h.target names
  | adjust f => exact .of_ends (fun code => .modify _ _ _ w) rfl
  | dispatch type detail => cases hquiet
  | dispose => exact .of_ends (s := w.element) (dispose_settles h) rfl
  | disconnect =>
    let u := { w with element := { w.element with isConnected := false } }
    refine .of_ends (s := u.element) (fun code => .bind (.modify _ _ _ w) ?_) rfl
    exact dispose_settles (d := d) (w := u) ⟨h.phase, h.target, h.unheard⟩ code

/-! ## Code outside -/

/-- From a state without handlers, the adapter is left as it is but for its element, has no
handlers, and dispatches nothing. -/
def IsSilent (v w : AdapterWorld V) : Prop :=
  IsUnheard v → w.state = v.state ∧ IsUnheard w ∧ w.dispatched = v.dispatched

theorem isSilent_isStep : IsStep (IsSilent (V := V)) where
  refl _ h := ⟨rfl, h, rfl⟩
  trans h₁ h₂ h := by
    obtain ⟨hstate, hunheard, hdispatched⟩ := h₁ h
    obtain ⟨hstate', hunheard', hdispatched'⟩ := h₂ hunheard
    exact ⟨hstate'.trans hstate, hunheard', hdispatched'.trans hdispatched⟩

theorem IsSilent.of_eq (hstate : w.state = v.state)
    (hhandled : ∀ event, w.handled event = v.handled event)
    (hdispatched : w.dispatched = v.dispatched) :
    IsSilent v w :=
  fun h => ⟨hstate, fun event => (hhandled event).trans (h event), hdispatched⟩

theorem isSilent_admits (hcode : Advances IsSilent code) : Admits IsSilent code where
  step := isSilent_isStep
  element _ _ := .of_eq rfl (fun _ => rfl) rfl
  on w _ listener := .of_eq rfl (handled_of_on w _ listener) rfl
  off w _ listener := .of_eq rfl (handled_of_off w _ listener) rfl
  code := hcode

theorem raise_isSilent (hcode : Advances IsSilent code) (event : Thing V) :
    Advances IsSilent (raise d code event) := by
  intro v outcome w hdeliver hunheard
  rw [raise, read_bind, change_bind, announce, read_bind] at hdeliver
  have hdelivers : Advances IsSilent
      (deliver (tell d code v.raised.length) (v.listeners.of (.thing event))) := by
    refine .deliver isSilent_isStep fun listener hlistener => ?_
    cases listener with
    | handler name =>
      have hname : name ∈ v.handled (.thing event) := (handler_mem_iff _ name).1 hlistener
      rw [hunheard] at hname
      cases hname
    | thing t => exact .anything hcode
  let u := { v with raised := v.raised ++ [event] }
  exact hdelivers u outcome w hdeliver hunheard

theorem behave_isSilent (depth : Nat) : Advances IsSilent (behave (V := V) d depth) :=
  behave_advances (fun _ => isSilent_admits) (fun _ => raise_isSilent) isSilent_isStep depth

/-! ## Runs -/

theorem IsDisposed.of_isSilent (h : IsDisposed v) (hsilent : IsSilent v w) :
    IsDisposed w ∧ w.dispatched = v.dispatched := by
  obtain ⟨hstate, hunheard, hdispatched⟩ := hsilent h.unheard
  exact ⟨⟨hstate ▸ h.phase, hstate ▸ h.target, hunheard⟩, hdispatched⟩

/-- An adapter that was disposed of stays so, and dispatches what others ask it to. -/
theorem possibly_of_disposed (h : IsDisposed v) {op : LifeOperation V} {outcome : Except Fault Unit}
    (hrun : op.possibly d v (outcome, w)) :
    IsDisposed w ∧ w.dispatched = v.dispatched ++ op.event?.toList := by
  by_cases hquiet : op.isQuiet = true
  · obtain ⟨result, s, hsettles, -⟩ := isGuarded_of_disposed (d := d) h hquiet
    obtain ⟨rfl, rfl⟩ := Prod.mk.inj (hsettles.possibly_iff.1 hrun)
    have hevent : op.event? = none := by
      cases op with
      | dispatch type detail => cases hquiet
      | _ => rfl
    rw [hevent, Option.toList_none, List.append_nil]
    exact ⟨⟨h.phase, h.target, h.unheard⟩, rfl⟩
  · obtain ⟨depth, hrun⟩ := hrun
    cases op with
    | use op =>
      cases op with
      | elsewhere =>
        have hsilent := h.of_isSilent (behave_isSilent depth _ _ _ hrun)
        simpa [event?] using hsilent
      | _ => exact absurd rfl hquiet
    | dispatch type detail =>
      have hannounce := change_bind.1 hrun
      have hsilent := announce_advances isSilent_isStep (behave_isSilent depth) _ _ _ _ hannounce
      let u := { v with dispatched := v.dispatched ++ [(type, Item.thing detail)] }
      exact IsDisposed.of_isSilent (v := u) ⟨h.phase, h.target, h.unheard⟩ hsilent
    | _ => exact absurd rfl hquiet

theorem runs_of_disposed {ops : List (LifeOperation V)} (h : IsDisposed v)
    (hrun : Possibly.Runs (LifeOperation.possibly d) ops v w) :
    IsDisposed w ∧ w.dispatched = v.dispatched ++ ops.filterMap event? := by
  induction hrun with
  | nil v => simpa using h
  | @cons op ops u v w outcome hfirst _ ih =>
    obtain ⟨hdisposed, hdispatched⟩ := possibly_of_disposed h hfirst
    obtain ⟨hlast, hrest⟩ := ih hdisposed
    refine ⟨hlast, ?_⟩
    rw [hrest, hdispatched, List.append_assoc]
    cases hevent : op.event? with
    | none => simp [hevent]
    | some event => simp [hevent]

/-! ## Before disposal -/

theorem noted_keepsTarget (w : AdapterWorld V) : KeepsTarget w (noted w) := by
  refine .of_eq ?_ ?_ fun _ => rfl
  · unfold noted
    split <;> rfl
  · unfold noted
    split <;> rfl

theorem possibly_keepsTarget {op : LifeOperation V} (hop : op.isDisposal = false) :
    Advances KeepsTarget (op.possibly d) := by
  refine .choose fun depth => ?_
  have hadmits := admits_keepsTarget (V := V) (d := d) depth
  refine LifeOperation.run_advances hadmits noted_keepsTarget ?_ ?_ ?_ hop
  · exact fun u => .of_eq rfl rfl fun _ => rfl
  · intro u outcome t hrun hu
    obtain ⟨-, rfl⟩ := Prod.mk.inj ((connected_ends hu.target _).1 hrun)
    exact connect_keepsTarget u hu
  · exact fun type detail _ => keepsTarget_ignores.dispatch hadmits.code type _

theorem disposal_ends (h : HoldsTarget v) {op : LifeOperation V} (hop : op.isDisposal = true)
    {outcome : Except Fault Unit} (hrun : op.possibly d v (outcome, w)) :
    outcome = .ok () ∧ IsDisposed w ∨ outcome ≠ .ok () ∧ HoldsTarget w := by
  obtain ⟨depth, hrun⟩ := hrun
  cases op with
  | dispose => exact dispose_ends depth h hrun
  | disconnect =>
    let u := { v with element := { v.element with isConnected := false } }
    have hu : HoldsTarget u := ⟨h.target, h.own, h.known, h.once⟩
    exact dispose_ends depth hu ((Ends.modify _ _ _ v).bind_iff.1 hrun)
  | _ => cases hop

/-- Throughout its life, the adapter either has its target or has let go of it. -/
theorem runs_of_holdsTarget {ops : List (LifeOperation V)} (h : HoldsTarget v)
    (hrun : Possibly.Runs (LifeOperation.possibly d) ops v w) : HoldsTarget w ∨ IsDisposed w := by
  induction hrun with
  | nil v => exact .inl h
  | @cons op ops u v w outcome hfirst hrest ih =>
    cases hop : op.isDisposal with
    | false => exact ih (possibly_keepsTarget hop _ _ _ hfirst h)
    | true =>
      rcases disposal_ends h hop hfirst with ⟨-, hdisposed⟩ | ⟨-, hholds⟩
      · exact .inr (runs_of_disposed hdisposed hrest).1
      · exact ih hholds

/-! ## Disposal -/

/-- Nothing was asked of the adapter yet, and nothing was registered with its target. -/
structure IsNew (w : AdapterWorld V) : Prop extends IsFresh w where
  handlers : w.state.handlers = []

theorem IsNew.holdsTarget (h : IsNew w) : HoldsTarget w where
  target := h.target
  own := by simp [h.handlers]
  known event name hname := by
    rw [h.handled] at hname
    cases hname
  once event := by simp [h.handled]

/-- Once a disposal of the adapter has returned, whatever is done from then on: the adapter stays
disposed of and without target, and dispatches nothing but what others ask it to. Every operation
of its own comes to one end whatever code there is outside, leaves all but the adapter as an element
as it is, and is refused if it needs the target; another disposal changes nothing. -/
theorem disposed_for_good {before after : List (LifeOperation V)} {op : LifeOperation V}
    {x y : AdapterWorld V} (hnew : IsNew v)
    (hbefore : Possibly.Runs (LifeOperation.possibly d) before v w) (hop : op.isDisposal = true)
    (hdisposal : op.possibly d w (.ok (), x))
    (hafter : Possibly.Runs (LifeOperation.possibly d) after x y) :
    y.state.phase = .disposed ∧ y.state.target = none ∧
      y.dispatched = x.dispatched ++ after.filterMap event? ∧
      (∀ op : LifeOperation V, op.isQuiet = true → op.IsGuarded d y) ∧
      dispose.Settles d y (.ok ()) y.element := by
  have hdisposed : IsDisposed x := by
    rcases runs_of_holdsTarget hnew.holdsTarget hbefore with hholds | hdisposed
    · rcases disposal_ends hholds hop hdisposal with ⟨-, hdisposed⟩ | ⟨hfailed, -⟩
      · exact hdisposed
      · exact absurd rfl hfailed
    · exact (possibly_of_disposed hdisposed hdisposal).1
  obtain ⟨hlast, hdispatched⟩ := runs_of_disposed hdisposed hafter
  refine ⟨hlast.phase, hlast.target, hdispatched, fun op hquiet => ?_, dispose_settles hlast⟩
  exact isGuarded_of_disposed hlast hquiet

/-! ## An event after disposal -/

/-- An adapter that was connected and disposed of. -/
def disposedWorld : AdapterWorld Nat :=
  { (connect readyDefinition newWorld).release with state := ⟨.disposed, [], none⟩ }

/-- The adapter after its former target raised an event. -/
def silentWorld : AdapterWorld Nat :=
  { disposedWorld with raised := [.text "ready"] }

theorem disposedWorld_reached :
    dispose.possibly readyDefinition (connect readyDefinition newWorld) (.ok (), disposedWorld) := by
  let u := (connect readyDefinition newWorld).release
  refine ⟨0, .ok _, _, rfl, .ok (), u, (unbindEvents_ends _ _).2 rfl, ?_⟩
  -- The target has nothing to free.
  refine ⟨.ok (.thing .nothing), u, ⟨.ok .nothing, u, ⟨.ok (), rfl⟩, rfl⟩, ?_⟩
  refine ⟨.ok false, u, ⟨.ok (), rfl⟩, .ok (), { u with state := ⟨.bound, [], none⟩ }, ?_, ?_⟩
  · exact ⟨.ok _, u, rfl, rfl⟩
  · exact ⟨.ok _, _, rfl, rfl⟩

theorem silentWorld_reached :
    (use .elsewhere).possibly readyDefinition disposedWorld (.ok (), silentWorld) := by
  refine ⟨1, 1, .ok (), silentWorld, ⟨.raise (.text "ready"), ?_⟩, rfl⟩
  exact ⟨.ok 0, _, rfl, .ok (), silentWorld, rfl, .ok silentWorld.listeners, silentWorld, rfl, rfl⟩

theorem silent_after_disposal :
    Possibly.Runs (LifeOperation.possibly readyDefinition) [use .connect] newWorld
        (connect readyDefinition newWorld) ∧
      dispose.possibly readyDefinition (connect readyDefinition newWorld) (.ok (), disposedWorld) ∧
      Possibly.Runs (LifeOperation.possibly readyDefinition) [use .elsewhere] disposedWorld
        silentWorld ∧
      silentWorld.raised = [.text "ready"] ∧ silentWorld.dispatched = [] ∧
      ∀ e, (use (.setProperty "size" (.text "1"))).possibly readyDefinition silentWorld e →
        e.1 = .error (.disposed "Source") := by
  have hnew : newWorld.IsNew := ⟨⟨rfl, rfl, fun _ => rfl, rfl⟩, rfl⟩
  have hbefore : Possibly.Runs (LifeOperation.possibly readyDefinition) [use .connect] newWorld
      (connect readyDefinition newWorld) :=
    .cons ⟨0, (connected_ends rfl _).2 rfl⟩ (.nil _)
  have hafter : Possibly.Runs (LifeOperation.possibly readyDefinition) [use .elsewhere]
      disposedWorld silentWorld :=
    .cons silentWorld_reached (.nil _)
  obtain ⟨-, -, hdispatched, hguarded, -⟩ :=
    disposed_for_good hnew hbefore rfl disposedWorld_reached hafter
  refine ⟨hbefore, disposedWorld_reached, hafter, rfl, hdispatched, fun e he => ?_⟩
  obtain ⟨outcome, s, hsettles, hrefused⟩ := hguarded (use (.setProperty "size" (.text "1"))) rfl
  rw [hsettles.possibly_iff.1 he]
  exact hrefused rfl

end SceneBridge.AdapterWorld
