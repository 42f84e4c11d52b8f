import Mathlib.Data.List.Infix
import SceneBridge.Proofs.AdapterRuns

/-!
# The event bridge

Which events of its target an adapter dispatches. Once its handlers are registered, each
event of the target leads to one event of the adapter for each handler of its type; whatever
is done with the adapter and the target, the handlers stay as they are.
-/

namespace SceneBridge.AdapterWorld

open Possibly

variable {V : Type} [DecidableEq V] {d : AdapterDefinition (Item V)}
  {code : Possibly (AdapterWorld V) Unit}

/-! ## Handlers -/

omit [DecidableEq V] in
@[simp]
theorem bridged_handler (event : String) : (Item.handler event : Item V).bridged? = some event := rfl

omit [DecidableEq V] in
@[simp]
theorem bridged_thing (t : Thing V) : (Item.thing t).bridged? = none := rfl

theorem filterMap_bridged_erase (ls : List (Item V)) (t : Thing V) :
    (ls.erase (.thing t)).filterMap Item.bridged? = ls.filterMap Item.bridged? := by
  induction ls with
  | nil => rfl
  | cons l ls ih =>
    by_cases h : l = .thing t
    · rw [h, List.erase_cons_head, List.filterMap_cons_none (bridged_thing t)]
    · rw [List.erase_cons_tail (by simpa using h), List.filterMap_cons, List.filterMap_cons, ih]

theorem handled_of_on (w : AdapterWorld V) (event : Item V) (t : Thing V) (other : Item V) :
    handled { w with listeners := w.listeners.on event (.thing t) } other = w.handled other := by
  unfold handled Listeners.on
  dsimp only
  split
  · rfl
  · by_cases h : other = event
    · subst h
      rw [Listeners.of_put_self, List.filterMap_append]
      simp
    · rw [Listeners.of_put_of_ne _ _ h]

theorem handled_of_off (w : AdapterWorld V) (event : Item V) (t : Thing V) (other : Item V) :
    handled { w with listeners := w.listeners.off event (.thing t) } other = w.handled other := by
  unfold handled Listeners.off
  dsimp only
  split
  · by_cases h : other = event
    · subst h
      rw [Listeners.of_put_self, filterMap_bridged_erase]
    · rw [Listeners.of_put_of_ne _ _ h]
  · rfl

omit [DecidableEq V] in
theorem handler_mem_iff (ls : List (Item V)) (event : String) :
    (.handler event) ∈ ls ↔ event ∈ ls.filterMap Item.bridged? := by
  rw [List.mem_filterMap]
  constructor
  · exact fun h => ⟨_, h, rfl⟩
  · rintro ⟨l, hl, hevent⟩
    cases l with
    | handler other =>
      obtain rfl := Option.some.inj hevent
      exact hl
    | thing t => cases hevent

theorem handled_subscribe (w : AdapterWorld V) (event : String) (other : Item V) :
    (w.subscribe event).handled other =
      if other = .thing (.text event) ∧ event ∉ w.handled other then w.handled other ++ [event]
      else w.handled other := by
  unfold handled subscribe Listeners.on
  dsimp only
  by_cases hother : other = .thing (.text event)
  · subst hother
    simp only [List.contains_iff_mem, handler_mem_iff, true_and]
    split
    · simp_all
    · rw [Listeners.of_put_self, List.filterMap_append]
      simp_all
  · simp only [hother, false_and, if_false]
    split
    · rfl
    · rw [Listeners.of_put_of_ne _ _ hother]

/-- The handlers among those of some events that an event is for. -/
def handlersFor (events : List String) : Item V → List String
  | .thing (.text event) => if event ∈ events then [event] else []
  | _ => []

theorem handled_foldl_subscribe (events : List String) {seen : List String} {w : AdapterWorld V}
    (h : ∀ event, w.handled event = handlersFor seen event) (event : Item V) :
    (events.foldl subscribe w).handled event = handlersFor (seen ++ events) event := by
  -- The invariant is what the handlers registered so far are for.
  induction events generalizing seen w with
  | nil => simpa using h event
  | cons e es ih =>
    -- A handler that is registered twice is called once.
    have hone (other : Item V) : (w.subscribe e).handled other = handlersFor (seen ++ [e]) other := by
      rw [handled_subscribe, h other]
      by_cases hother : other = .thing (.text e)
      · subst hother
        by_cases hseen : e ∈ seen <;> simp [handlersFor, hseen]
      · unfold handlersFor
        split <;> simp_all
    simpa using ih hone

/-! ## What is dispatched -/

/-- The event that the adapter dispatches for a handler of an event of the target. -/
def answer (d : AdapterDefinition (Item V)) (id : Nat) (event : String) : String × Item V :=
  (d.eventPrefix ++ event, .thing (.event id))

/-- The handlers are registered as `own` says, and nothing is dispatched for events to come. -/
structure IsSound (own : Item V → List String) (w : AdapterWorld V) : Prop where
  handled : ∀ event, w.handled event = own event
  fresh : ∀ id, w.raised.length ≤ id → w.answers id = []

/-- Events were raised, and for each of them the adapter dispatched one event for each of its
handlers. For an event raised before, `told` are those that it dispatched besides. -/
structure Adds (d : AdapterDefinition (Item V)) (own : Item V → List String)
    (told : Nat → List String) (v w : AdapterWorld V) : Prop where
  sound : IsSound own w
  raised : v.raised <+: w.raised
  old : ∀ id < v.raised.length, w.answers id = v.answers id ++ (told id).map (answer d id)
  new : ∀ id event, v.raised.length ≤ id → w.raised[id]? = some event →
    w.answers id = (own (.thing event)).map (answer d id)

variable {own : Item V → List String} {told more : Nat → List String} {u v w : AdapterWorld V}

theorem Adds.trans (h₁ : Adds d own told u v) (h₂ : Adds d own more v w)
    (hmore : ∀ id, u.raised.length ≤ id → more id = []) :
    Adds d own (fun id => told id ++ more id) u w where
  sound := h₂.sound
  raised := h₁.raised.trans h₂.raised
  old id hid := by
    have hlater : id < v.raised.length := Nat.lt_of_lt_of_le hid h₁.raised.length_le
    rw [h₂.old id hlater, h₁.old id hid, List.map_append, List.append_assoc]
  new id event hid hevent := by
    by_cases hlater : id < v.raised.length
    · have hraised : v.raised[id]? = some event := by
        obtain ⟨rest, hrest⟩ := h₂.raised
        rw [← hevent, ← hrest, List.getElem?_append_left hlater]
      rw [h₂.old id hlater, hmore id hid, h₁.new id event hid hraised]
      simp
    · exact h₂.new id event (Nat.le_of_not_lt hlater) hevent

/-- From a sound state, events are answered as their handlers tell. -/
def Bridges (d : AdapterDefinition (Item V)) (own : Item V → List String) (v w : AdapterWorld V) :
    Prop :=
  IsSound own v → Adds d own (fun _ => []) v w

theorem Bridges.of_eq (hhandled : ∀ event, w.handled event = v.handled event)
    (hraised : w.raised = v.raised) (hdispatched : w.dispatched = v.dispatched) :
    Bridges d own v w := by
  intro hsound
  have hanswers (id : Nat) : w.answers id = v.answers id := by rw [answers, answers, hdispatched]
  refine ⟨⟨fun event => ?_, fun id hid => ?_⟩, ?_, fun id _ => ?_, fun id event hid hevent => ?_⟩
  · rw [hhandled, hsound.handled]
  · rw [hanswers, hsound.fresh id (hraised ▸ hid)]
  · rw [hraised]
  · simpa using hanswers id
  · rw [hraised, List.getElem?_eq_none hid] at hevent
    cases hevent

theorem bridges_isStep : IsStep (Bridges d own) where
  refl _ := .of_eq (fun _ => rfl) rfl rfl
  trans h₁ h₂ hsound := by
    have hfirst := h₁ hsound
    exact hfirst.trans (h₂ hfirst.sound) fun _ _ => rfl

theorem bridges_admits (hcode : Advances (Bridges d own) code) : Admits (Bridges d own) code where
  step := bridges_isStep
  element _ _ := .of_eq (fun _ => rfl) rfl rfl
  on w _ listener := .of_eq (fun other => handled_of_on w _ listener other) rfl rfl
  off w _ listener := .of_eq (fun other => handled_of_off w _ listener other) rfl rfl
  code := hcode

/-! ## Events -/

/-- The event has one more answer for each of the handlers, and the rest is as before. -/
def toldOf (id : Nat) (events : List String) : Nat → List String :=
  fun other => if other = id then events else []

@[simp]
theorem toldOf_nil (id : Nat) : toldOf id [] = fun _ => [] := by
  funext other
  simp [toldOf]

theorem bridge_adds (hcode : Advances (Bridges d own) code) {id : Nat} {event : String}
    {outcome : Except Fault Unit} (hsound : IsSound own v) (hid : id < v.raised.length)
    (hrun : (adapter d code).bridge event (.thing (.event id)) v (outcome, w)) :
    Adds d own (toldOf id [event]) v w := by
  obtain ⟨dispatched, t, ht, hrest⟩ := hrun
  obtain ⟨rfl, rfl⟩ := Prod.mk.inj ht
  -- The event is dispatched before any listener to it is called.
  have hdispatch : Adds d own (toldOf id [event]) v
      { v with dispatched := v.dispatched ++ [answer d id event] } := by
    have hanswers (other : Nat) :
        answers { v with dispatched := v.dispatched ++ [answer d id event] } other =
          v.answers other ++ (toldOf id [event] other).map (answer d other) := by
      unfold answers toldOf
      by_cases h : other = id
      · subst h
        simp [answer]
      · simp [answer, h, Ne.symm h]
    refine ⟨⟨hsound.handled, fun other hother => ?_⟩, List.prefix_rfl, fun other _ => hanswers other,
      fun other _ hother h => ?_⟩
    · have hne : other ≠ id := by
        rintro rfl
        exact absurd hid (Nat.not_lt.2 hother)
      rw [hanswers, hsound.fresh other hother]
      simp [toldOf, hne]
    · rw [List.getElem?_eq_none hother] at h
      cases h
  have hstep : IsStep (Bridges d own) := bridges_isStep
  have hlisteners := announce_advances hstep hcode (.thing (.text (d.eventPrefix ++ event)))
  have htell := hdispatch.trans (hlisteners _ _ _ hrest hdispatch.sound) fun _ _ => rfl
  simpa using htell

theorem tell_adds (hcode : Advances (Bridges d own) code) {id : Nat} {listener : Item V}
    {outcome : Except Fault Unit} (hsound : IsSound own v) (hid : id < v.raised.length)
    (hrun : tell d code id listener v (outcome, w)) :
    Adds d own (toldOf id listener.bridged?.toList) v w := by
  cases listener with
  | handler event => exact bridge_adds hcode hsound hid hrun
  | thing t =>
    have hany := Advances.anything hcode _ _ _ hrun hsound
    simpa using hany

theorem deliver_adds (hcode : Advances (Bridges d own) code) {id : Nat} {listeners : List (Item V)}
    {outcome : Except Fault Unit} (hsound : IsSound own v) (hid : id < v.raised.length)
    (hrun : deliver (tell d code id) listeners v (outcome, w)) :
    Adds d own (toldOf id (listeners.filterMap Item.bridged?)) v w := by
  induction listeners generalizing v with
  | nil =>
    obtain ⟨-, rfl⟩ := Prod.mk.inj hrun
    simpa using bridges_isStep.refl _ hsound
  | cons listener listeners ih =>
    obtain ⟨inner, t, hcall, hrest⟩ := deliver_cons hrun
    have hfirst := tell_adds hcode hsound hid hcall
    have hlater : id < t.raised.length := Nat.lt_of_lt_of_le hid hfirst.raised.length_le
    have hall := hfirst.trans (ih hfirst.sound hlater hrest) fun other hother => by
      simp [toldOf, (Nat.lt_of_lt_of_le hid hother).ne']
    have htold : toldOf id ((listener :: listeners).filterMap Item.bridged?) = fun other =>
        toldOf id listener.bridged?.toList other ++
          toldOf id (listeners.filterMap Item.bridged?) other := by
      funext other
      unfold toldOf
      split
      · cases listener <;> rfl
      · rfl
    exact htold ▸ hall

theorem raise_bridges (hcode : Advances (Bridges d own) code) (event : Thing V) :
    Advances (Bridges d own) (raise d code event) := by
  intro v outcome w hdeliver hsound
  rw [raise, read_bind, change_bind, announce, read_bind] at hdeliver
  -- Until it is delivered, the new event has no answers.
  have hid : v.raised.length < (v.raised ++ [event]).length := by simp
  have hraised : IsSound own { v with raised := v.raised ++ [event] } := by
    refine ⟨hsound.handled, fun id hlater => hsound.fresh id ?_⟩
    exact Nat.le_of_lt (Nat.lt_of_lt_of_le hid hlater)
  have hall := deliver_adds hcode hraised hid hdeliver
  have hown : (v.listeners.of (.thing event)).filterMap Item.bridged? = own (.thing event) :=
    hsound.handled (.thing event)
  rw [hown] at hall
  refine ⟨hall.sound, (List.prefix_append _ _).trans hall.raised, fun id hold => ?_,
    fun id other hnew hother => ?_⟩
  · have hanswers := hall.old id (Nat.lt_trans hold hid)
    rw [toldOf, if_neg (Nat.ne_of_lt hold)] at hanswers
    exact hanswers
  -- The event itself was told to the handlers; later ones were raised while it was told.
  · by_cases hsame : id = v.raised.length
    · subst hsame
      obtain ⟨rest, hrest⟩ := hall.raised
      obtain rfl : event = other := by simpa [← hrest] using hother
      have hanswers := hall.old _ hid
      have hnone : answers { v with raised := v.raised ++ [event] } v.raised.length = [] :=
        hsound.fresh _ (Nat.le_refl _)
      rw [hnone, toldOf, if_pos rfl] at hanswers
      exact hanswers
    · refine hall.new id other ?_ hother
      simp only [List.length_append, List.length_cons, List.length_nil]
      omega

/-- Whatever code outside does, the adapter dispatches what its handlers tell. -/
theorem behave_bridges (depth : Nat) : Advances (Bridges d own) (behave d depth) :=
  behave_advances (fun _ => bridges_admits) (fun _ => raise_bridges) bridges_isStep depth

/-! ## Runs -/

theorem possibly_bridges {op : Operation V} (hconnect : op ≠ .connect) :
    Advances (Bridges d own) (op.possibly d) := by
  refine .choose fun depth => ?_
  refine run_advances (bridges_admits (behave_bridges depth)) ?_ ?_ fun h => absurd h hconnect
  · exact fun w => .of_eq (fun _ => rfl) rfl rfl
  · exact fun _ w => .of_eq (fun _ => rfl) rfl rfl

theorem connect_bridges (hphase : v.state.phase ≠ .constructed) :
    Bridges d own v (connect d v) := by
  rw [connect, if_neg hphase]
  exact .of_eq (fun _ => rfl) rfl rfl

/-- Once something happened to the phase of the adapter, its handlers stay as they are. -/
theorem Runs.bridges {ops : List (Operation V)} (hrun : Runs d ops v w)
    (htarget : v.state.target = some (.thing .target)) (hphase : v.state.phase ≠ .constructed) :
    Bridges d own v w := by
  induction hrun with
  | nil w => exact bridges_isStep.refl w
  | @cons op ops u v w outcome h _ ih =>
    obtain ⟨hkept, hlater⟩ := possibly_isLater op _ _ _ h htarget
    refine bridges_isStep.trans ?_ (ih hkept (hlater hphase))
    -- Connecting again registers nothing, since the phase has moved on.
    by_cases hop : op = .connect
    · subst hop
      obtain ⟨depth, hconnected⟩ := h
      obtain ⟨-, rfl⟩ := Prod.mk.inj ((connected_ends htarget _).1 hconnected)
      exact connect_bridges hphase
    · exact possibly_bridges hop _ _ _ h

/-- The handlers that are registered when the adapter is connected. -/
def connectedHandlers (d : AdapterDefinition (Item V)) (phase : AdapterPhase) : Item V → List String :=
  if phase = .constructed then handlersFor (d.metadata.events.map (·.1)) else fun _ => []

/-- An adapter that is connected for the first time registers its handlers if nothing happened to
its phase before, and registers none otherwise. -/
theorem connect_sound (h : IsSound (fun _ => []) w) :
    IsSound (connectedHandlers d w.state.phase) (connect d w) := by
  have hanswers (id : Nat) : (connect d w).answers id = w.answers id :=
    connect_keeps (·.answers id) (fun _ _ => rfl) (fun _ _ => rfl) (fun _ _ => rfl) w
  have hraised : (connect d w).raised = w.raised :=
    connect_keeps (·.raised) (fun _ _ => rfl) (fun _ _ => rfl) (fun _ _ => rfl) w
  refine ⟨fun event => ?_, fun id hid => ?_⟩
  · unfold connect connectedHandlers
    split
    · let v : AdapterWorld V := { w with element := { w.element with isConnected := true } }
      have hnone (other : Item V) : v.handled other = handlersFor [] other := by
        refine (h.handled other).trans ?_
        unfold handlersFor
        split <;> rfl
      exact handled_foldl_subscribe (d.metadata.events.map (·.1)) hnone event
    · exact h.handled event
  · rw [hanswers, h.fresh id (hraised ▸ hid)]

/-! ## The bridge -/

/-- An adapter that is connected for the first time comes to one end. From then on, every event
that its target raises and that is declared leads to one event of the adapter if the phase was
`constructed` when it was connected, and to none otherwise; and the phase was `constructed` if no
update was asked for before. -/
theorem events_since_connect {before : List (Operation V)} (hfresh : IsFresh v)
    (hbefore : .connect ∉ before) (hrun : Runs d before v w) :
    (∀ e, Operation.connect.possibly d w e ↔ e = (.ok (), connect d w)) ∧
    (∀ after u, Runs d after (connect d w) u → ∀ id event,
      (connect d w).raised.length ≤ id → u.raised[id]? = some (.text event) →
      event ∈ d.metadata.events.map (·.1) →
      u.answers id =
        if w.state.phase = .constructed then [(d.eventPrefix ++ event, .thing (.event id))]
        else []) ∧
    ((∀ op ∈ before, op.isUpdate = false) → w.state.phase = .constructed) := by
  have hops (op : Operation V) (hop : op ∈ before) : op ≠ .connect := by
    rintro rfl
    exact hbefore hop
  -- The target is still there when the adapter is connected.
  obtain ⟨htarget, -⟩ := hrun.advances isLater_isStep (fun op _ => possibly_isLater op) hfresh.target
  -- A new adapter has no handlers, so that events before the connection have no answers.
  have hstart : IsSound (fun _ => []) v :=
    ⟨hfresh.handled, fun id _ => by simp [answers, hfresh.dispatched]⟩
  have hadds := hrun.advances bridges_isStep (fun op hop => possibly_bridges (hops op hop)) hstart
  refine ⟨fun e => ?_, fun after u hafter id event hid hevent hdeclared => ?_, fun hupdate => ?_⟩
  · constructor
    · rintro ⟨depth, hconnected⟩
      exact (connected_ends htarget e).1 hconnected
    · exact fun he => ⟨0, (connected_ends htarget e).2 he⟩
  · have hsound := connect_sound (d := d) hadds.sound
    have hkept := (connect_target (d := d) w).trans htarget
    have hanswers := (hafter.bridges hkept (connect_phase w) hsound).new id _ hid hevent
    rw [hanswers, connectedHandlers]
    split
    · simp [handlersFor, hdeclared, answer]
    · rfl
  · have hstays := hrun.advances staysConstructed_isStep fun op hop =>
      possibly_staysConstructed (hupdate op hop) (hops op hop)
    exact hstays hfresh.phase

/-! ## An event that is lost -/

/-- Adapters of a class with one event and no properties. -/
def readyDefinition : AdapterDefinition (Item Nat) where
  className := "Source"
  metadata := { Metadata.empty with events := [("ready", ⟨"ready", .scalar "Event"⟩)] }
  attributes := []
  methods := []
  statics := []
  eventPrefix := "on-"
  shadowed := []

/-- A new adapter among nothing else. -/
def newWorld : AdapterWorld Nat where
  element := .empty
  state := ⟨.constructed, [], some (.thing .target)⟩
  listeners := .empty
  raised := []
  dispatched := []

/-- A new adapter to which a property was written. -/
def writtenWorld : AdapterWorld Nat :=
  { newWorld with
    element := { ElementState.empty with
      values := [("size", .thing (.text "1"))]
      changed := [("size", .thing .nothing)] } }

/-- A new adapter to which a property was written and that has updated. -/
def updatedWorld : AdapterWorld Nat :=
  { newWorld with
    element := { ElementState.empty with
      values := [("size", .thing (.text "1"))]
      hasUpdated := true }
    state := { newWorld.state with phase := .converted } }

theorem writtenWorld_reached :
    (Operation.setProperty "size" (.text "1")).possibly readyDefinition newWorld
      (.ok (), writtenWorld) := by
  refine ⟨0, .ok _, _, ⟨.ok _, _, rfl, rfl⟩, ?_⟩
  refine ⟨.ok _, _, ⟨.ok _, _, rfl, rfl⟩, .ok _, _, ⟨.ok _, _, rfl, rfl⟩, ?_⟩
  refine ⟨.ok true, _, ⟨.ok (), rfl⟩, ?_⟩
  exact ⟨.ok _, _, ⟨.ok _, _, rfl, rfl⟩, ⟨.ok _, _, rfl, rfl⟩⟩

theorem updatedWorld_reached :
    Operation.performUpdate.possibly readyDefinition writtenWorld (.ok (), updatedWorld) := by
  let a := adapter readyDefinition (behave readyDefinition 0)
  let taken : AdapterWorld Nat :=
    { writtenWorld with element := { writtenWorld.element with changed := [] } }
  let converted : AdapterWorld Nat := { taken with state := updatedWorld.state }
  have hupdate : a.element.update writtenWorld.element.changed taken (.ok (), converted) := by
    refine ⟨.ok (.thing .target), taken, ⟨.ok _, _, rfl, rfl⟩, .ok [], taken, ?_, ?_⟩
    · exact ⟨.ok none, taken, rfl, rfl⟩
    · exact ⟨.ok (), converted, ⟨.ok _, _, rfl, rfl⟩, rfl⟩
  have hfinish : a.element.finishUpdate writtenWorld.element.changed converted
      (.ok (), updatedWorld) := by
    refine ⟨.ok _, converted, rfl, .ok (), updatedWorld, ⟨.ok _, _, rfl, rfl⟩, ?_⟩
    exact ⟨.ok (), _, rfl, .ok (), _, rfl, .ok _, _, rfl, rfl⟩
  refine ⟨0, .ok true, updatedWorld, ?_, rfl⟩
  refine ⟨.ok _, _, rfl, .ok (), taken, ⟨.ok _, _, rfl, rfl⟩, .ok (), converted, hupdate, ?_⟩
  exact ⟨.ok (), updatedWorld, hfinish, rfl⟩

/-- The adapter after its target raised an event. -/
def unansweredWorld : AdapterWorld Nat :=
  { connect readyDefinition updatedWorld with raised := [.text "ready"] }

theorem unansweredWorld_reached :
    (Operation.elsewhere).possibly readyDefinition (connect readyDefinition updatedWorld)
      (.ok (), unansweredWorld) := by
  refine ⟨1, 1, .ok (), unansweredWorld, ⟨.raise (.text "ready"), ?_⟩, rfl⟩
  exact ⟨.ok 0, _, rfl, .ok (), unansweredWorld, rfl, .ok .empty, unansweredWorld, rfl, rfl⟩

theorem event_lost_after_update :
    Runs readyDefinition [.setProperty "size" (.text "1"), .performUpdate] newWorld updatedWorld ∧
      Runs readyDefinition [.elsewhere] (connect readyDefinition updatedWorld) unansweredWorld ∧
      unansweredWorld.raised = [.text "ready"] ∧ unansweredWorld.answers 0 = [] := by
  have hfresh : newWorld.IsFresh := ⟨rfl, rfl, fun _ => rfl, rfl⟩
  have hrun : Runs readyDefinition [.setProperty "size" (.text "1"), .performUpdate] newWorld
      updatedWorld :=
    .cons writtenWorld_reached (.cons updatedWorld_reached (.nil _))
  have hafter : Runs readyDefinition [.elsewhere] (connect readyDefinition updatedWorld)
      unansweredWorld :=
    .cons unansweredWorld_reached (.nil _)
  obtain ⟨-, hlater, -⟩ := events_since_connect hfresh (by simp) hrun
  have hanswers := hlater _ _ hafter 0 "ready" (Nat.le_refl 0) rfl (by simp [readyDefinition])
  exact ⟨hrun, hafter, rfl, hanswers⟩

end SceneBridge.AdapterWorld
