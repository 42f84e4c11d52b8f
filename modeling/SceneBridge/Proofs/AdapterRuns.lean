import SceneBridge.Proofs.AdapterWorld

/-!
# Steps of an adapter among others

Which kinds of steps an adapter and the code around it make, operation by operation and
over whole runs.
-/

namespace SceneBridge.AdapterWorld

open Possibly

variable {V : Type} [DecidableEq V] {d : AdapterDefinition (Item V)}
  {code : Possibly (AdapterWorld V) Unit} {R : AdapterWorld V → AdapterWorld V → Prop}

/-- Steps of which are made what the adapter keeps as an element, what code outside does, and
what it has registered. -/
structure Admits (R : AdapterWorld V → AdapterWorld V → Prop)
    (code : Possibly (AdapterWorld V) Unit) : Prop where
  step : IsStep R
  element : ∀ w s, R w { w with element := s }
  on : ∀ w (event listener : Thing V),
    R w { w with listeners := w.listeners.on (.thing event) (.thing listener) }
  off : ∀ w (event listener : Thing V),
    R w { w with listeners := w.listeners.off (.thing event) (.thing listener) }
  code : Advances R code

theorem Admits.mono {P : AdapterWorld V → AdapterWorld V → Prop} (hP : IsStep P)
    (h : ∀ v w, R v w → P v w) (hadmits : Admits R code) : Admits P code where
  step := hP
  element w s := h _ _ (hadmits.element w s)
  on w event listener := h _ _ (hadmits.on w event listener)
  off w event listener := h _ _ (hadmits.off w event listener)
  code := hadmits.code.mono h

/-! ## Code outside -/

omit [DecidableEq V] in
theorem outside_advances (hR : IsStep R) (hcode : Advances R code) : Advances R (outside code) :=
  .map hR _ (.anything hcode)

theorem call_advances (h : Admits R code) (f : Item V) (args : List (Thing V)) :
    Advances R (call code f (args.map .thing)) := by
  -- Code outside hands over nothing but things, never a handler.
  have hthings {x y : Item V} (hargs : args.map .thing = [x, y]) :
      ∃ a b, x = .thing a ∧ y = .thing b := by
    obtain ⟨a, rest, -, rfl, hrest⟩ := List.map_eq_cons_iff.1 hargs
    obtain ⟨b, _, -, rfl, -⟩ := List.map_eq_cons_iff.1 hrest
    exact ⟨a, b, rfl, rfl⟩
  unfold call
  split
  · rename_i hargs
    obtain ⟨a, b, rfl, rfl⟩ := hthings hargs
    rw [listenersCell, cell_modify]
    exact .bind h.step (.change fun w => h.on w a b) fun _ => .pure h.step _
  · rename_i hargs
    obtain ⟨a, b, rfl, rfl⟩ := hthings hargs
    rw [listenersCell, cell_modify]
    exact .bind h.step (.change fun w => h.off w a b) fun _ => .pure h.step _
  · exact outside_advances h.step h.code

/-! ## The adapter -/

theorem bareAdapter_asks (h : Admits R code) : (bareAdapter d code).Asks R where
  element := ⟨.read h.step _, fun s => .change fun w => h.element w s⟩
  state := .read h.step _
  differs _ _ := .anything h.code
  member _ _ := outside_advances h.step h.code
  peek v name := by
    refine .ite (fun _ => .pure h.step _) fun _ => ?_
    exact .ite (fun _ => .pure h.step _) fun _ => outside_advances h.step h.code
  setMember _ _ _ := .anything h.code
  convert _ _ := outside_advances h.step h.code
  entries? _ := .anything h.code
  newRecord _ := outside_advances h.step h.code
  isOpenRecord _ := .anything h.code
  setEntry _ _ _ := .anything h.code

theorem notingAdapter_asks (h : Admits R code) : (notingAdapter d code).Asks R :=
  { bareAdapter_asks (d := d) h with }

theorem adapter_asks (h : Admits R code) : (adapter d code).Asks R :=
  { bareAdapter_asks (d := d) h with }

/-! ## Operations -/

/-- The adapter has noted a change. -/
def noted (w : AdapterWorld V) : AdapterWorld V :=
  { w with
    state :=
      if w.state.phase = .bound ∨ w.state.phase = .converted then
        { w.state with phase := .observed }
      else w.state }

/-- The adapter has written its changes to the target. -/
def updated (w : AdapterWorld V) : AdapterWorld V :=
  { w with state := { w.state with phase := .converted } }

theorem finish_advances (h : Admits R code) (changed : List (String × Item V)) :
    Advances R ((adapter d code).element.finishUpdate changed) :=
  Element.finishUpdate_advances h.step (adapter_asks h).element (fun _ => .pure h.step _)
    (fun _ => .pure h.step _) (fun _ _ => .anything h.code) changed

theorem run_advances (h : Admits R code) (hnoted : ∀ w, R w (noted w)) {op : Operation V}
    (hupdated : op.isUpdate = true → ∀ w, R w (updated w))
    (hconnect : op = .connect → Advances R (adapter d code).connected) :
    Advances R (op.run d code) := by
  have hnote (name : String) (old : Item V) :
      Advances R ((bareAdapter d code).requestUpdate name old) := by
    refine (bareAdapter d code).requestUpdate_advances h.step (bareAdapter_asks h) ?_ name old
    exact (cell_modify _ _ _).symm ▸ Advances.change hnoted
  have hset (name : String) (value : Item V) :
      Advances R ((notingAdapter d code).setProperty name value) :=
    (notingAdapter d code).setProperty_advances h.step (notingAdapter_asks h) hnote name value
  have hperform (hop : op.isUpdate = true) : Advances R (adapter d code).element.performUpdate := by
    refine Element.performUpdate_advances h.step (adapter_asks h).element ?_ (finish_advances h)
    refine fun changed => (notingAdapter d code).update_advances h.step (notingAdapter_asks h) ?_ _
    exact (cell_modify _ _ _).symm ▸ Advances.change (hupdated hop)
  cases op with
  | setAttribute attr text =>
    exact Element.setAttribute_advances h.step (adapter_asks h).element hset attr text _
  | removeAttribute attr =>
    exact Element.removeAttribute_advances h.step (adapter_asks h).element hset attr
  | setProperty name value =>
    exact (adapter d code).setProperty_advances h.step (adapter_asks h) hnote name _
  | performUpdate => exact .bind h.step (hperform rfl) fun _ => .pure h.step _
  | flush limit =>
    exact .bind h.step (Element.flush_advances h.step (hperform rfl) limit) fun _ => .pure h.step _
  | connect => exact hconnect rfl
  | forward binding args named =>
    refine .bind h.step ?_ fun _ => .pure h.step _
    exact (adapter d code).forward_advances h.step (adapter_asks h)
      (fun f => call_advances h f args) binding
  | listen event listener => exact (adapter_asks h).element.modify h.step _
  | subscribe listener => exact (adapter_asks h).element.modify h.step _
  | elsewhere => exact h.code

/-! ## Connecting -/

/-- The handler of an event is registered with the target. -/
def subscribe (w : AdapterWorld V) (event : String) : AdapterWorld V :=
  { w with
    listeners := w.listeners.on (.thing (.text event)) (.handler event)
    state := { w.state with handlers := w.state.handlers ++ [(event, .handler event)] } }

/-- What connecting the adapter comes to: the handlers are registered if nothing happened
before. -/
def connect (d : AdapterDefinition (Item V)) (w : AdapterWorld V) : AdapterWorld V :=
  let v := { w with element := { w.element with isConnected := true } }
  if w.state.phase = .constructed then
    let u := (d.metadata.events.map (·.1)).foldl subscribe v
    { u with state := { u.state with phase := .bound } }
  else v

theorem bindEvents_ends (w : AdapterWorld V) :
    Ends ((adapter d code).bindEvents (.thing .target)) w ⟨⟩
      ((d.metadata.events.map (·.1)).foldl subscribe w) := by
  have hone (v : AdapterWorld V) (event : String × EventInfo) :
      Ends (do
        let handler := (adapter d code).handler event.1
        let _ ← (adapter d code).call (.thing .on) [(adapter d code).textValue event.1, handler] []
        (adapter d code).state.modify fun s =>
          { s with handlers := s.handlers ++ [(event.1, handler)] }) v ⟨⟩ (v.subscribe event.1) :=
    .bind (.bind (.modify _ _ _ _) (.pure _ _)) (.modify _ _ _ _)
  have hall := Ends.forM hone d.metadata.events w
  have hpeek : Ends ((adapter d code).peek (.thing .target) "on") w (.thing .on) w := .pure _ _
  have hcallable : Ends ((adapter d code).isCallable (.thing .on)) w true w := .pure _ _
  rw [List.foldl_map]
  unfold Adapter.bindEvents
  split
  · rename_i hempty
    have hnone : d.metadata.events = [] := List.isEmpty_iff.1 hempty
    rw [hnone]
    exact .pure _ w
  · exact .bind hpeek (.bind hcallable hall)

theorem connected_ends {w : AdapterWorld V} (h : w.state.target = some (.thing .target)) :
    Ends (adapter d code).connected w () (connect d w) := by
  have htarget : Ends (adapter d code).requireTarget w (.thing .target) w :=
    (adapter d code).requireTarget_ends (.read _ w) h
  refine .bind htarget (.bind (.modify _ _ _ w) (.bind (.read _ _) ?_))
  unfold connect
  split
  · exact .bind (bindEvents_ends _) (.modify _ _ _ _)
  · exact .pure _ _

/-! ## Code outside, at any depth -/

theorem behave_advances (hadmits : ∀ code, Advances R code → Admits R code)
    (hraise : ∀ code, Advances R code → ∀ event, Advances R (raise d code event)) (hR : IsStep R)
    (depth : Nat) : Advances R (behave d depth) := by
  -- What is called at some depth does deeds that call code of less depth.
  induction depth with
  | zero => exact .pure hR ()
  | succ n ih =>
    refine .often hR (.choose fun deed => ?_)
    have hcall := call_advances (hadmits _ ih)
    cases deed with
    | on event listener =>
      exact .bind hR (hcall (.thing .on) [event, listener]) fun _ => .pure hR _
    | off event listener =>
      exact .bind hR (hcall (.thing .off) [event, listener]) fun _ => .pure hR _
    | raise event => exact hraise _ ih event

/-- Steps of which are made what the adapter keeps as an element, what code outside registers and
raises, and what the adapter dispatches for it. -/
structure Ignores (R : AdapterWorld V → AdapterWorld V → Prop) : Prop where
  step : IsStep R
  element : ∀ w s, R w { w with element := s }
  on : ∀ w (event listener : Thing V),
    R w { w with listeners := w.listeners.on (.thing event) (.thing listener) }
  off : ∀ w (event listener : Thing V),
    R w { w with listeners := w.listeners.off (.thing event) (.thing listener) }
  raised : ∀ w events, R w { w with raised := events }
  dispatched : ∀ w events, R w { w with dispatched := events }

theorem Ignores.admits (h : Ignores R) (hcode : Advances R code) : Admits R code :=
  ⟨h.step, h.element, h.on, h.off, hcode⟩

theorem announce_advances (hR : IsStep R) (hcode : Advances R code) (event : Item V) :
    Advances R (announce (read (·.element.listeners)) event
      fun _ : Item V => (anything code : Possibly (AdapterWorld V) Unit)) := by
  refine .bind hR (.read hR _) fun listeners => ?_
  exact .deliver hR fun _ _ => .anything hcode

theorem Ignores.dispatch (h : Ignores R) (hcode : Advances R code) (type : String)
    (detail : Item V) : Advances R (dispatch code type detail) :=
  .bind h.step (.change fun w => h.dispatched w _) fun _ => announce_advances h.step hcode _

theorem Ignores.raise (h : Ignores R) (hcode : Advances R code) (event : Thing V) :
    Advances R (raise d code event) := by
  refine .bind h.step (.read h.step _) fun id => ?_
  refine .bind h.step (.change fun w => h.raised w _) fun _ => ?_
  refine .bind h.step (.read h.step _) fun listeners => ?_
  refine .deliver h.step fun listener _ => ?_
  cases listener with
  | handler event => exact h.dispatch hcode _ _
  | thing t => exact .anything hcode

theorem behave_ignores (h : Ignores R) (depth : Nat) : Advances R (behave d depth) :=
  behave_advances (fun _ => h.admits) (fun _ => h.raise) h.step depth

/-- The adapter is left as it is, but for its element. -/
def KeepsState (v w : AdapterWorld V) : Prop :=
  w.state = v.state

omit [DecidableEq V] in
theorem keepsState_isStep : IsStep (KeepsState (V := V)) where
  refl _ := rfl
  trans h₁ h₂ := Eq.trans h₂ h₁

theorem behave_keepsState (depth : Nat) : Advances KeepsState (behave d depth) :=
  behave_ignores ⟨keepsState_isStep, fun _ _ => rfl, fun _ _ _ => rfl, fun _ _ _ => rfl,
    fun _ _ => rfl, fun _ _ => rfl⟩ depth

/-! ## Phases over runs -/

theorem Runs.advances (hR : IsStep R) {ops : List (Operation V)}
    (hops : ∀ op ∈ ops, Advances R (op.possibly d)) {v w : AdapterWorld V} (hrun : Runs d ops v w) :
    R v w := by
  induction hrun with
  | nil w => exact hR.refl w
  | cons h _ ih =>
    have hfirst := hops _ List.mem_cons_self _ _ _ h
    exact hR.trans hfirst (ih fun op hop => hops op (List.mem_cons_of_mem _ hop))

/-- The adapter still has its target, and if anything had happened to its phase, it is not
`constructed` again. -/
def IsLater (v w : AdapterWorld V) : Prop :=
  v.state.target = some (.thing .target) →
    w.state.target = some (.thing .target) ∧
      (v.state.phase ≠ .constructed → w.state.phase ≠ .constructed)

omit [DecidableEq V] in
theorem isLater_isStep : IsStep (IsLater (V := V)) where
  refl _ h := ⟨h, id⟩
  trans h₁ h₂ h := by
    obtain ⟨ht, hp⟩ := h₁ h
    obtain ⟨hu, hq⟩ := h₂ ht
    exact ⟨hu, hq ∘ hp⟩

omit [DecidableEq V] in
theorem IsLater.of_keeps {v w : AdapterWorld V} (h : KeepsState v w) : IsLater v w := by
  intro ht
  rw [KeepsState] at h
  exact ⟨h ▸ ht, h ▸ id⟩

theorem admits_keepsState (depth : Nat) {P : AdapterWorld V → AdapterWorld V → Prop} (hP : IsStep P)
    (hkeeps : ∀ v w, KeepsState v w → P v w) : Admits P (behave d depth) where
  step := hP
  element _ _ := hkeeps _ _ rfl
  on _ _ _ := hkeeps _ _ rfl
  off _ _ _ := hkeeps _ _ rfl
  code := (behave_keepsState depth).mono hkeeps

/-- Connecting keeps what none of its parts changes. -/
theorem connect_keeps {α : Type} (f : AdapterWorld V → α)
    (helement : ∀ w s, f { w with element := s } = f w) (hsubscribe : ∀ w e, f (w.subscribe e) = f w)
    (hphase : ∀ w p, f { w with state := { w.state with phase := p } } = f w) (w : AdapterWorld V) :
    f (connect d w) = f w := by
  have hfold (events : List String) (v : AdapterWorld V) : f (events.foldl subscribe v) = f v := by
    induction events generalizing v with
    | nil => rfl
    | cons e es ih => exact (ih (v.subscribe e)).trans (hsubscribe v e)
  unfold connect
  split
  · exact (hphase _ _).trans ((hfold _ _).trans (helement _ _))
  · exact helement _ _

theorem connect_target (w : AdapterWorld V) : (connect d w).state.target = w.state.target :=
  connect_keeps (·.state.target) (fun _ _ => rfl) (fun _ _ => rfl) (fun _ _ => rfl) w

theorem connect_phase (w : AdapterWorld V) : (connect d w).state.phase ≠ .constructed := by
  unfold connect
  split
  · simp
  · assumption

theorem possibly_isLater (op : Operation V) : Advances IsLater (op.possibly d) := by
  refine .choose fun depth => ?_
  refine run_advances (admits_keepsState depth isLater_isStep fun _ _ => .of_keeps) ?_ ?_ ?_
  · intro w ht
    refine ⟨?_, fun hp => ?_⟩
    · unfold noted
      split <;> exact ht
    · unfold noted
      split
      · simp
      · exact hp
  · exact fun _ w ht => ⟨ht, fun _ => by simp [updated]⟩
  · rintro - w outcome t hrun ht
    obtain ⟨-, rfl⟩ := Prod.mk.inj ((connected_ends ht _).1 hrun)
    exact ⟨(connect_target w).trans ht, fun _ => connect_phase w⟩

/-- Nothing happened to the phase of the adapter. -/
def StaysConstructed (v w : AdapterWorld V) : Prop :=
  v.state.phase = .constructed → w.state.phase = .constructed

omit [DecidableEq V] in
theorem staysConstructed_isStep : IsStep (StaysConstructed (V := V)) :=
  .of_invariant fun w : AdapterWorld V => w.state.phase = .constructed

theorem possibly_staysConstructed {op : Operation V} (hupdate : op.isUpdate = false)
    (hconnect : op ≠ .connect) : Advances StaysConstructed (op.possibly d) := by
  have hkeeps (v w : AdapterWorld V) (h : KeepsState v w) : StaysConstructed v w := by
    intro hp
    rw [h, hp]
  refine .choose fun depth => run_advances (admits_keepsState depth staysConstructed_isStep hkeeps) ?_ ?_ ?_
  · intro w hp
    simp [noted, hp]
  · simp [hupdate]
  · exact fun h => absurd h hconnect

theorem update_phase {names : List String} {v w : AdapterWorld V}
    (h : (notingAdapter d code).update names v (.ok (), w)) : w.state.phase = .converted := by
  obtain ⟨target, s, -, hrest⟩ := bind_ok h
  obtain ⟨failures, t, -, hrest⟩ := bind_ok hrest
  obtain ⟨_, u, hphase, hreport⟩ := bind_ok hrest
  have hu : u = { t with state := { t.state with phase := .converted } } := by
    have hchange := (Ends.modify _ _ _ t _).1 hphase
    exact (Prod.mk.inj hchange).2
  cases hfailures : failures.head? with
  | some fault =>
    simp only [hfailures] at hreport
    cases hreport
  | none =>
    simp only [hfailures] at hreport
    obtain ⟨-, rfl⟩ := Prod.mk.inj hreport
    rw [hu]

/-- An update that was handed out and came to its end has moved the phase of the adapter on. -/
theorem phase_of_performUpdate {v w : AdapterWorld V} (hpending : v.element.isPending = true)
    (h : Operation.performUpdate.possibly d v (.ok (), w)) : w.state.phase ≠ .constructed := by
  obtain ⟨depth, h⟩ := h
  obtain ⟨more, _, hperform, hlast⟩ := bind_ok h
  obtain ⟨-, rfl⟩ := Prod.mk.inj hlast
  have hbatch := read_bind.1 hperform
  simp only [hpending] at hbatch
  obtain ⟨_, t, -, hbatch⟩ := bind_ok hbatch
  obtain ⟨_, u, hupdate, hbatch⟩ := bind_ok hbatch
  obtain ⟨_, s, hfinish, hend⟩ := bind_ok hbatch
  obtain ⟨-, rfl⟩ := Prod.mk.inj hend
  -- What comes after the update leaves the phase alone.
  have hadmits := admits_keepsState (d := d) depth keepsState_isStep fun _ _ h => h
  have hkept := finish_advances hadmits _ _ _ _ hfinish
  rw [hkept, update_phase hupdate]
  simp

/-- After such an update, the phase of the adapter is never `constructed` again. -/
theorem Runs.phase_of_performUpdate {ops : List (Operation V)} {u v w : AdapterWorld V}
    (htarget : u.state.target = some (.thing .target)) (hpending : u.element.isPending = true)
    (hupdate : Operation.performUpdate.possibly d u (.ok (), v)) (hrun : Runs d ops v w) :
    w.state.phase ≠ .constructed := by
  obtain ⟨hkept, -⟩ := possibly_isLater _ _ _ _ hupdate htarget
  obtain ⟨-, hlater⟩ := hrun.advances isLater_isStep (fun op _ => possibly_isLater op) hkept
  exact hlater (AdapterWorld.phase_of_performUpdate hpending hupdate)

end SceneBridge.AdapterWorld
