import SceneBridge.Adapter.Bridge
import SceneBridge.Proofs.Possible

/-!
# What adapters do, in steps

The operations of elements and adapters are put together from what they read and write of
their state and from what they ask of others. Where each of these is a step of some kind,
the operations are steps of that kind.
-/

namespace SceneBridge

open Possibly

variable {σ K V : Type} {R : σ → σ → Prop}

/-! ## Cells -/

/-- Reading and writing the cell is a step. -/
structure Cell.Advances {τ : Type} (R : σ → σ → Prop) (c : Cell (Possibly σ) τ) : Prop where
  get : Possibly.Advances R c.get
  set : ∀ v, Possibly.Advances R (c.set v)

theorem Cell.Advances.modify {τ : Type} {c : Cell (Possibly σ) τ} (hc : c.Advances R)
    (hR : IsStep R) (f : τ → τ) : Possibly.Advances R (c.modify f) :=
  .bind hR hc.get fun v => hc.set (f v)

/-! ## Elements -/

namespace Element

variable {e : Element (Possibly σ) K V} (hR : IsStep R)

include hR

theorem property_advances (hget : Advances R e.state.get) (name : String) :
    Advances R (e.property name) :=
  .bind hR hget fun _ => .pure hR _

variable (hstate : e.state.Advances R)

include hstate

theorem storeProperty_advances (hdiffers : ∀ old new, Advances R (e.differs old new))
    (hrequest : ∀ name old, Advances R (e.requestUpdate name old)) (name : String) (value : V) :
    Advances R (e.storeProperty name value) := by
  refine .bind hR (property_advances hR hstate.get name) fun old => ?_
  refine .bind hR (hstate.modify hR _) fun _ => ?_
  refine .bind hR (hdiffers old value) fun differs => ?_
  cases differs with
  | true => exact hrequest name old
  | false => exact .pure hR _

theorem setAttribute_advances (hset : ∀ name value, Advances R (e.setProperty name value))
    (attr text : String) (value : V) : Advances R (e.setAttribute attr text value) := by
  refine .bind hR (hstate.modify hR _) fun _ => ?_
  refine .bind hR hstate.get fun s => ?_
  cases s.propertyFor? attr with
  | some name => exact hset name value
  | none => exact .pure hR _

theorem removeAttribute_advances (hset : ∀ name value, Advances R (e.setProperty name value))
    (attr : String) : Advances R (e.removeAttribute attr) := by
  refine .bind hR hstate.get fun s => ?_
  refine .ite (fun _ => .pure hR _) fun _ => ?_
  refine .bind hR (hstate.set _) fun _ => ?_
  cases s.propertyFor? attr with
  | some name => exact hset name e.nothing
  | none => exact .pure hR _

theorem finishUpdate_advances (hfirst : ∀ changed, Advances R (e.firstUpdated changed))
    (hupdated : ∀ changed, Advances R (e.updated changed))
    (hnotify : ∀ subscriber names, Advances R (e.notify subscriber names))
    (changed : List (String × V)) : Advances R (e.finishUpdate changed) := by
  have hlast : Advances R (do
      e.updated changed
      deliver (e.notify · (changed.map (·.1))) (← e.state.get).subscribers) := by
    refine .bind hR (hupdated changed) fun _ => .bind hR hstate.get fun s => ?_
    exact .deliver hR fun subscriber _ => hnotify subscriber _
  refine .bind hR hstate.get fun s => .bind hR (hstate.modify hR _) fun _ => ?_
  exact .ite (fun _ => .bind hR (hfirst changed) fun _ => hlast) fun _ => hlast

theorem performUpdate_advances (hupdate : ∀ changed, Advances R (e.update changed))
    (hfinish : ∀ changed, Advances R (e.finishUpdate changed)) : Advances R e.performUpdate := by
  refine .bind hR hstate.get fun s => ?_
  refine .ite (fun _ => .pure hR _) fun _ => ?_
  refine .bind hR (hstate.modify hR _) fun _ => ?_
  refine .bind hR (hupdate s.changed) fun _ => ?_
  exact .bind hR (hfinish s.changed) fun _ => .pure hR true

omit hstate in
theorem flush_advances (hperform : Advances R e.performUpdate) (limit : Nat) :
    Advances R (e.flush limit) := by
  induction limit with
  | zero => exact .pure hR 0
  | succ n ih =>
    refine .bind hR hperform fun more => ?_
    cases more with
    | true => exact .bind hR ih fun k => .pure hR (k + 1)
    | false => exact .pure hR 0

theorem complete_advances (hflush : ∀ limit, Advances R (e.flush limit)) :
    Advances R e.complete :=
  .bind hR (hflush usualRounds) fun _ => .bind hR hstate.get fun _ => .pure hR _

end Element

/-! ## Adapters -/

/-- What the adapter asks of its target and of its values is a step. -/
structure Adapter.AsksOutside (R : σ → σ → Prop) (a : Adapter (Possibly σ) K V) : Prop where
  member : ∀ v name, Advances R (a.member v name)
  peek : ∀ v name, Advances R (a.peek v name)
  setMember : ∀ v name value, Advances R (a.setMember v name value)
  convert : ∀ v t, Advances R (a.convert v t)
  entries? : ∀ v, Advances R (a.entries? v)
  newRecord : ∀ es, Advances R (a.newRecord es)
  isOpenRecord : ∀ v, Advances R (a.isOpenRecord v)
  setEntry : ∀ v key value, Advances R (a.setEntry v key value)

/-- What the adapter asks of others is a step, and so is what it reads of its state. -/
structure Adapter.Asks (R : σ → σ → Prop) (a : Adapter (Possibly σ) K V) : Prop
    extends a.AsksOutside R where
  element : a.element.state.Advances R
  state : Advances R a.state.get
  differs : ∀ old new, Advances R (a.element.differs old new)

namespace Adapter

variable {a : Adapter (Possibly σ) K V} (hR : IsStep R)

/-! ### The target -/

section Target

variable {w : σ} {s : AdapterState V}

theorem requireTarget_ends (hget : Ends a.state.get w s w) {t : V} (h : s.target = some t) :
    Ends a.requireTarget w t w := by
  refine .bind hget ?_
  rw [h]
  exact .pure t w

theorem requireTarget_breaks (hget : Ends a.state.get w s w) (h : s.target = none) :
    Breaks a.requireTarget w (.disposed a.definition.className) w := by
  refine hget.bind_breaks ?_
  rw [h]
  exact .throw _ w

/-- A computed property without setter is refused before the target is asked for. -/
theorem setComputed_breaks {name : String} {info : ComputedInfo} {value : V}
    (h : info.hasSetter = false) :
    Breaks (a.setComputed name info value) w (.readOnly name) w := by
  unfold setComputed
  simp only [h]
  exact (Breaks.throw _ w).bind

end Target

/-! ### Changes -/

section Changes

variable (ha : a.AsksOutside R)

include hR ha

theorem mergeInto_advances (target : V) (name : String) (fields : List (String × V)) :
    Advances R (a.mergeInto target name fields) := by
  refine .bind hR (ha.peek target name) fun current => ?_
  refine .ite (fun _ => ?_) fun _ => ?_
  · exact .bind hR (ha.newRecord fields) fun made => ha.setMember target name made
  · refine .forM hR fun ⟨key, value⟩ _ => .ite (fun _ => .pure hR _) fun _ => ?_
    refine .bind hR (ha.isOpenRecord current) fun known => ?_
    exact .ite (fun _ => ha.setEntry current key value) fun _ => ha.setMember current key value

theorem applyChange_advances (hget : Advances R a.element.state.get) (target : V) (name : String) :
    Advances R (a.applyChange target name) := by
  rw [applyChange]
  split
  · exact .pure hR none
  · rename_i info _
    refine .ite (fun _ => .pure hR none) fun _ => ?_
    refine .bind hR (a.element.property_advances hR hget name) fun value => ?_
    have houtcome : Advances R
        (tryCatchThe Fault (Except.ok <$> a.convert value info.type) fun f => pure (.error f)) :=
      .tryCatch hR (.map hR _ (ha.convert value info.type)) fun f => .pure hR _
    refine .bind hR houtcome fun outcome => ?_
    cases outcome with
    | error f => exact .ite (fun _ => .pure hR _) fun _ => .throw hR f
    | ok converted =>
      refine .bind hR (ha.entries? converted) fun fields => ?_
      dsimp only
      split
      · exact .bind hR (mergeInto_advances hR ha target name _) fun _ => .pure hR none
      · exact .bind hR (ha.setMember target name converted) fun _ => .pure hR none

end Changes

/-! ### Operations -/

variable (ha : a.Asks R)

include hR ha

theorem requireTarget_advances : Advances R a.requireTarget := by
  refine .bind hR ha.state fun s => ?_
  cases s.target with
  | some target => exact .pure hR target
  | none => exact .throw hR _

theorem requestUpdate_advances
    (hphase : Advances R (a.state.modify fun s =>
      if s.phase = .bound ∨ s.phase = .converted then { s with phase := .observed } else s))
    (name : String) (old : V) : Advances R (a.requestUpdate name old) :=
  .bind hR (ha.element.modify hR _) fun _ => hphase

theorem setComputed_advances (hrequest : ∀ name old, Advances R (a.element.requestUpdate name old))
    (name : String) (info : ComputedInfo) (value : V) :
    Advances R (a.setComputed name info value) := by
  have hwrite (target old : V) : Advances R (do
      let converted ← a.convert value info.type
      a.setMember target name converted
      a.element.requestUpdate name old) := by
    refine .bind hR (ha.convert value info.type) fun converted => ?_
    exact .bind hR (ha.setMember target name converted) fun _ => hrequest name old
  -- What is left to do once a property without setter is refused.
  have hrest : Advances R (do
      let target ← a.requireTarget
      let old ← if info.hasGetter then a.member target name else pure a.element.nothing
      let converted ← a.convert value info.type
      a.setMember target name converted
      a.element.requestUpdate name old) := by
    refine .bind hR (requireTarget_advances hR ha) fun target => ?_
    refine .ite (fun _ => ?_) fun _ => ?_
    · exact .bind hR (ha.member target name) fun old => hwrite target old
    · exact .bind hR (.pure hR a.element.nothing) fun old => hwrite target old
  exact .ite (fun _ => .bind hR (.throw hR _) fun _ => hrest) fun _ => hrest

theorem setProperty_advances (hrequest : ∀ name old, Advances R (a.element.requestUpdate name old))
    (name : String) (value : V) : Advances R (a.setProperty name value) := by
  refine .bind hR (requireTarget_advances hR ha) fun _ => ?_
  cases a.definition.metadata.computed.lookup name with
  | some info => exact setComputed_advances hR ha hrequest name info value
  | none => exact a.element.storeProperty_advances hR ha.element ha.differs hrequest name value

theorem property_advances (name : String) : Advances R (a.property name) := by
  rw [property]
  cases a.definition.metadata.computed.lookup name with
  | none => exact a.element.property_advances hR ha.element.get name
  | some info =>
    have hread : Advances R (do a.member (← a.requireTarget) name) :=
      .bind hR (requireTarget_advances hR ha) fun target => ha.member target name
    exact .ite (fun _ => .bind hR (.throw hR _) fun _ => hread) fun _ => hread

theorem update_advances
    (hphase : Advances R (a.state.modify ({ · with phase := .converted }))) (names : List String) :
    Advances R (a.update names) := by
  refine .bind hR (requireTarget_advances hR ha) fun target => ?_
  have happly (name : String) : Advances R (a.applyChange target name) :=
    applyChange_advances hR ha.toAsksOutside ha.element.get target name
  refine .bind hR (.filterMapM hR fun name _ => happly name) fun fs => ?_
  refine .bind hR hphase fun _ => ?_
  cases fs.head? with
  | some f => exact .throw hR f
  | none => exact .pure hR _

theorem forward_advances {args : List V} {named : List (String × V)}
    (hcall : ∀ f, Advances R (a.call f args named)) (binding : MethodBinding) :
    Advances R (a.forward binding args named) := by
  refine .bind hR (requireTarget_advances hR ha) fun target => ?_
  refine .bind hR (ha.member target binding.name) fun f => ?_
  exact .bind hR (hcall f) fun result => .pure hR _

/-! ### Events -/

section Unbinding

variable (hcall : ∀ f event handler, Advances R (a.call f [a.textValue event, handler] []))

include hcall

/-- Taking handlers off calls nothing but the method of the target that does it. -/
theorem unbindEvents_advances_of (hcallable : ∀ f, Advances R (a.isCallable f))
    (hclear : Advances R (a.state.modify ({ · with handlers := [] }))) (target : V) :
    Advances R (a.unbindEvents target) := by
  refine .bind hR (ha.peek target "off") fun unsubscribe => ?_
  refine .bind hR (hcallable unsubscribe) fun callable => ?_
  refine .ite (fun _ => .bind hR ha.state fun s => ?_) fun _ => hclear
  refine .bind hR (.walk hR ha.state (fun p => ?_) 0 _) fun _ => hclear
  exact .bind hR (hcall unsubscribe p.1 p.2) fun _ => .pure hR _

end Unbinding

/-- Asking whether something can be called is a step, and so is calling it. -/
structure Calls (R : σ → σ → Prop) (a : Adapter (Possibly σ) K V) : Prop where
  isCallable : ∀ f, Advances R (a.isCallable f)
  call : ∀ f args named, Advances R (a.call f args named)

variable (hcalls : a.Calls R) (hhandlers : ∀ f : List (String × V) → List (String × V),
  Advances R (a.state.modify fun s => { s with handlers := f s.handlers }))

include hcalls hhandlers

theorem bindEvents_advances (target : V) : Advances R (a.bindEvents target) := by
  have hone (event : String × EventInfo) (subscribe : V) : Advances R (do
      let _ ← a.call subscribe [a.textValue event.1, a.handler event.1] []
      a.state.modify fun s =>
        { s with handlers := s.handlers ++ [(event.1, a.handler event.1)] }) :=
    .bind hR (hcalls.call _ _ _) fun _ => hhandlers (· ++ [(event.1, a.handler event.1)])
  refine .ite (fun _ => .pure hR _) fun _ => ?_
  refine .bind hR (ha.peek target "on") fun subscribe => ?_
  refine .bind hR (hcalls.isCallable subscribe) fun callable => ?_
  exact .ite (fun _ => .pure hR _) fun _ => .forM hR fun event _ => hone event subscribe

theorem unbindEvents_advances (target : V) : Advances R (a.unbindEvents target) :=
  unbindEvents_advances_of hR ha (fun _ _ _ => hcalls.call _ _ _) hcalls.isCallable
    (hhandlers fun _ => []) target

end Adapter

end SceneBridge
