import SceneBridge.Proofs.NumericObjects
import SceneBridge.Proofs.Registrations

/-!
# Delivery of events

Who is called when an event is raised. A source of events calls those who were registered when the
event was raised, each once, in the order in which they came, whatever they do meanwhile: they may
fail, register and take off listeners, and raise events again. An element does the same with
those who listen to it, each as often as it is registered.
-/

namespace SceneBridge

open Act

/-! ## Telling listeners -/

namespace Act

/-- The state after a listener was called with an event, whether or not it failed. -/
def told (calls : Calls) (event : Value) (w : World) (listener : Value) : World :=
  ((calls.call listener [event] []).run.run w).2

theorem runs_caught (x : Act Unit) (w : World) :
    Runs (tryCatchThe Fault x fun _ => pure ()) w () (x.run.run w).2 := by
  cases hrun : x.run.run w with
  | mk outcome w' =>
    cases outcome with
    | ok a => exact Runs.tryCatch hrun
    | error fault => exact run_tryCatch_error hrun

theorem state_discard {α : Type} (x : Act α) (w : World) :
    ((discard x).run.run w).2 = (x.run.run w).2 := by
  cases hrun : x.run.run w with
  | mk outcome w' =>
    cases outcome with
    | ok a =>
      have hdiscard : Runs (discard x) w () w' := runs_discard hrun
      rw [hdiscard]
    | error fault =>
      have hdiscard : (discard x).run.run w = (.error fault, w') := by
        change ((fun _ => ()) <$> x).run.run w = _
        rw [map_eq_pure_bind]
        exact run_bind_error hrun
      rw [hdiscard]

/-- All listeners of a list are called in turn. -/
theorem runs_deliver (calls : Calls) (event : Value) (ls : List Value) (w : World) :
    Runs (deliver (fun l => discard (calls.call l [event] [])) ls) w ⟨⟩
      (ls.foldl (told calls event) w) := by
  induction ls generalizing w with
  | nil => exact runs_pure _ w
  | cons l ls ih =>
    have hcaught := runs_caught (discard (calls.call l [event] [])) w
    rw [state_discard] at hcaught
    exact hcaught.bind (ih _)

theorem runs_announce {listeners : Act (Listeners Value Value)} {t : Listeners Value Value}
    {w : World} (h : Runs listeners w t w) (type : Value) (calls : Calls) (event : Value) :
    Runs (announce listeners type fun l => discard (calls.call l [event] [])) w ()
      ((t.of type).foldl (told calls event) w) :=
  h.bind (runs_deliver calls event _ w)

theorem runs_key_text (s : String) (w : World) : Runs (key (.text s)) w (.text s) w := rfl

theorem runs_listenersOf (p : Nat) (w : World) :
    Runs (listenersOf p).get w (w.entity p).listeners w :=
  (runs_entity p w).bind (runs_pure _ w)

theorem runs_modify_listeners (p : Nat) (f : Listeners Value Value → Listeners Value Value)
    (w : World) : Runs ((listenersOf p).modify f) w ()
      (w.withChange p ({ · with listeners := f (w.entity p).listeners })) :=
  (runs_listenersOf p w).bind (runs_change p _ w)

end Act

/-! ## Sources of events -/

/-- The object is an event with this type, source and data. -/
def IsEventOf (w : World) (event : Value) (type : String) (source : Value)
    (data : List (String × Value)) : Prop :=
  ∃ p q, event = .object p ∧ (w.entity p).class_ = .library .sceneEvent ∧
    (w.entity p).attributes = [("type", .text type), ("target", source), ("data", .object q)] ∧
    (w.entity q).body = .record data

/-- The state in which an event was made and nobody was told of it. -/
def raised (i : Invocation) (event : String) (w : World) : World :=
  (w.withObject (.ofClass (.library .record) (.record i.args.named))).withObject
    { Entity.ofClass (.library .sceneEvent) .plain with
      attributes := [("type", .text event), ("target", i.self), ("data", .object w.store.size)] }

theorem runs_newEvent (i : Invocation) (event : String) (w : World) :
    Runs (do
      let record ← newRecord i.args.named
      newPlain .sceneEvent [("type", .text event), ("target", i.self), ("data", record)]) w
      (.object (w.store.size + 1)) (raised i event w) := by
  have hrecord := World.size_withObject w (.ofClass (.library .record) (.record i.args.named))
  rw [← hrecord]
  exact rfl

/-- A source of events that is there is asked something about an event. -/
structure IsAsked (p : Nat) (event : String) (i : Invocation) (w : World) : Prop where
  self : i.self = .object p
  event : i.arg "event_type" = .text event
  size : p < w.store.size

namespace IsAsked

variable {p : Nat} {event : String} {i : Invocation} {w : World}

theorem place (h : IsAsked p event i w) : i.place = p := by
  rw [Invocation.place, h.self]

theorem runs_on (h : IsAsked p event i w) :
    Runs (EventOperation.run .on i) w .null (w.withChange p
      ({ · with listeners := (w.entity p).listeners.on (.text event) (i.arg "listener") })) := by
  rw [EventOperation.run, h.event, h.place]
  exact (runs_key_text event w).bind ((runs_modify_listeners p _ w).bind (runs_pure _ _))

theorem runs_off (h : IsAsked p event i w) :
    Runs (EventOperation.run .off i) w .null (w.withChange p
      ({ · with listeners := (w.entity p).listeners.off (.text event) (i.arg "listener") })) := by
  rw [EventOperation.run, h.event, h.place]
  exact (runs_key_text event w).bind ((runs_modify_listeners p _ w).bind (runs_pure _ _))

theorem entity_raised (h : IsAsked p event i w) : (raised i event w).entity p = w.entity p := by
  have hp := h.size
  rw [raised, World.entity_withObject _ (by simp; omega), World.entity_withObject _ hp]

/-- Those are told who are registered when the event is raised. -/
theorem runs_emit (h : IsAsked p event i w) :
    Runs (EventOperation.run .emit i) w (.object (w.store.size + 1))
      (((w.entity p).listeners.of (.text event)).foldl
        (told i.calls (.object (w.store.size + 1))) (raised i event w)) := by
  rw [EventOperation.run, EventOperation.raise, h.event, h.place, ← bind_assoc]
  refine (runs_newEvent i event w).bind ((runs_key_text event _).bind ?_)
  have hlisteners := runs_listenersOf p (raised i event w)
  rw [h.entity_raised] at hlisteners
  exact (runs_announce hlisteners _ _ _).bind (runs_pure _ _)

end IsAsked

/-! ## Histories -/

/-- Listeners were told of an event in turn. `R` says what each of them did, and which listeners
were registered and taken off meanwhile. -/
inductive Delivers (R : List Registration → World → World → Prop) (calls : Calls) (event : Value) :
    List Value → List Registration → World → World → Prop where
  | nil (w : World) : Delivers R calls event [] [] w w
  | cons {l : Value} {ls : List Value} {part later : List Registration} {w w' : World}
      (hcall : R part w (told calls event w l))
      (hrest : Delivers R calls event ls later (told calls event w l) w') :
      Delivers R calls event (l :: ls) (part ++ later) w w'

/-- What may happen where there is a source of events, and who was registered and taken off
meanwhile. What those do who are told of an event is as `R` says, and all that happens aside is as
`A` says. -/
inductive Turns (A : World → World → Prop) (R : List Registration → World → World → Prop)
    (p : Nat) : List Registration → World → World → Prop where
  /-- Something that leaves the listeners of the source alone. -/
  | aside {w w' : World} (hlisteners : (w'.entity p).listeners = (w.entity p).listeners)
      (h : A w w') : Turns A R p [] w w'
  | on {i : Invocation} {event : String} {w : World} (h : IsAsked p event i w) :
      Turns A R p [.on event (i.arg "listener")] w ((EventOperation.run .on i).run.run w).2
  | off {i : Invocation} {event : String} {w : World} (h : IsAsked p event i w) :
      Turns A R p [.off event (i.arg "listener")] w ((EventOperation.run .off i).run.run w).2
  | emit {i : Invocation} {event : String} {part : List Registration} {w w' : World}
      (h : IsAsked p event i w)
      (htold : Delivers R i.calls (.object (w.store.size + 1))
        ((w.entity p).listeners.of (.text event)) part (raised i event w) w') :
      Turns A R p part w ((EventOperation.run .emit i).run.run w).2
  | trans {part later : List Registration} {u v w : World} (h : Turns A R p part u v)
      (hlater : Turns A R p later v w) : Turns A R p (part ++ later) u w

/-- What may happen where there is a source of events, if events are raised within one another to a
depth. -/
def Converses (A : World → World → Prop) (p : Nat) :
    (depth : Nat) → List Registration → World → World → Prop
  | 0 => Turns A (fun _ _ _ => False) p
  | n + 1 => Turns A (Converses A p n) p

/-- What holds of each step holds of all that may happen. -/
structure IsKept (A : World → World → Prop) (p : Nat)
    (P : List Registration → World → World → Prop) : Prop where
  aside {w w' : World} :
    (w'.entity p).listeners = (w.entity p).listeners → A w w' → P [] w w'
  on {i : Invocation} {event : String} {w : World} : IsAsked p event i w →
    P [.on event (i.arg "listener")] w ((EventOperation.run .on i).run.run w).2
  off {i : Invocation} {event : String} {w : World} : IsAsked p event i w →
    P [.off event (i.arg "listener")] w ((EventOperation.run .off i).run.run w).2
  raised {i : Invocation} {event : String} {w : World} : IsAsked p event i w →
    P [] w (raised i event w)
  refl (w : World) : P [] w w
  trans {part later : List Registration} {u v w : World} :
    P part u v → P later v w → P (part ++ later) u w

section IsKept

variable {A : World → World → Prop} {R P : List Registration → World → World → Prop} {p : Nat}
  {part : List Registration} {w w' : World} {calls : Calls} {event : Value} {ls : List Value}

theorem Delivers.foldl_eq (h : Delivers R calls event ls part w w') :
    ls.foldl (told calls event) w = w' := by
  induction h with
  | nil w => rfl
  | cons _ _ ih => exact ih

theorem Delivers.kept (hP : IsKept A p P) (hR : ∀ part w w', R part w w' → P part w w')
    (h : Delivers R calls event ls part w w') : P part w w' := by
  induction h with
  | nil w => exact hP.refl w
  | cons hcall _ ih => exact hP.trans (hR _ _ _ hcall) ih

theorem Turns.kept (hP : IsKept A p P) (hR : ∀ part w w', R part w w' → P part w w')
    (h : Turns A R p part w w') : P part w w' := by
  induction h with
  | aside hlisteners h => exact hP.aside hlisteners h
  | on h => exact hP.on h
  | off h => exact hP.off h
  | emit h htold =>
    -- The event is made first; all else is done by those who are told.
    have hall := hP.trans (hP.raised h) (htold.kept hP hR)
    rw [h.runs_emit, htold.foldl_eq]
    exact hall
  | trans _ _ ih ih' => exact hP.trans ih ih'

theorem Converses.kept (hP : IsKept A p P) {depth : Nat}
    (h : Converses A p depth part w w') : P part w w' := by
  induction depth generalizing part w w' with
  | zero => exact Turns.kept hP (fun _ _ _ hfalse => hfalse.elim) h
  | succ n ih => exact Turns.kept hP (fun _ _ _ => ih) h

end IsKept

/-! ### Listeners -/

/-- Who listens to the source changed as the registrations say, and nobody listens twice if nobody
did. -/
structure Follows (p : Nat) (part : List Registration) (w w' : World) : Prop where
  listeners : ∀ event, (w'.entity p).listeners.of (.text event) =
    part.foldl (Registration.single event) ((w.entity p).listeners.of (.text event))
  distinct : (w.entity p).listeners.AreDistinct → (w'.entity p).listeners.AreDistinct

section Follows

variable {p : Nat} {part later : List Registration} {u v w w' : World}

theorem Follows.of_eq (h : (w'.entity p).listeners = (w.entity p).listeners) :
    Follows p [] w w' := by
  refine ⟨fun event => ?_, fun hw => ?_⟩
  · rw [h, List.foldl_nil]
  · rw [h]
    exact hw

theorem Follows.trans (h : Follows p part u v) (h' : Follows p later v w) :
    Follows p (part ++ later) u w := by
  refine ⟨fun event => ?_, h'.distinct ∘ h.distinct⟩
  rw [List.foldl_append, ← h.listeners, h'.listeners]

theorem isKept_follows (A : World → World → Prop) (p : Nat) : IsKept A p (Follows p) where
  aside hlisteners _ := .of_eq hlisteners
  on {i event w} h := by
    rw [h.runs_on]
    refine ⟨fun name => ?_, fun hdistinct => ?_⟩
    · rw [World.entity_withChange_self h.size]
      exact Listeners.of_on _ _ _ _
    · rw [World.entity_withChange_self h.size]
      exact hdistinct.on _ _
  off {i event w} h := by
    rw [h.runs_off]
    refine ⟨fun name => ?_, fun hdistinct => ?_⟩
    · rw [World.entity_withChange_self h.size]
      exact Listeners.of_off _ _ _ _
    · rw [World.entity_withChange_self h.size]
      exact hdistinct.off _ _
  raised h := .of_eq (congrArg Entity.listeners h.entity_raised)
  refl _ := .of_eq rfl
  trans := .trans

end Follows

/-! ### Events -/

/-- Events that were made are still what they were made of. -/
def KeepsEvents (w w' : World) : Prop :=
  ∀ event type source data, IsEventOf w event type source data → IsEventOf w' event type source data

/-- Events do not depend on who listens to an object. -/
theorem keepsEvents_withListeners (w : World) (p : Nat) (ls : Listeners Value Value) :
    KeepsEvents w (w.withChange p ({ · with listeners := ls })) := by
  have hsame (q : Nat) : ((w.withChange p ({ · with listeners := ls })).entity q).class_ =
      (w.entity q).class_ ∧
      ((w.withChange p ({ · with listeners := ls })).entity q).attributes =
        (w.entity q).attributes ∧
      ((w.withChange p ({ · with listeners := ls })).entity q).body = (w.entity q).body := by
    by_cases hqp : q = p
    · subst hqp
      by_cases hq : q < w.store.size
      · simp [World.entity_withChange_self hq]
      · simp [World.entity, World.withChange, Nat.le_of_not_lt hq]
    · simp [World.entity_withChange hqp]
  rintro event type source data ⟨q, r, hevent, hclass, hattributes, hbody⟩
  refine ⟨q, r, hevent, ?_, ?_, ?_⟩
  · rw [(hsame q).1, hclass]
  · rw [(hsame q).2.1, hattributes]
  · rw [(hsame r).2.2, hbody]

/-- Events do not depend on objects that are made later. -/
theorem keepsEvents_withObject (w : World) (e : Entity) : KeepsEvents w (w.withObject e) := by
  rintro event type source data ⟨q, r, hevent, hclass, hattributes, hbody⟩
  have hq : q < w.store.size := by
    by_contra hnot
    rw [World.entity, Array.getElem?_eq_none (Nat.le_of_not_lt hnot)] at hattributes
    cases hattributes
  have hr : r < w.store.size := by
    by_contra hnot
    rw [World.entity, Array.getElem?_eq_none (Nat.le_of_not_lt hnot)] at hbody
    cases hbody
  refine ⟨q, r, hevent, ?_, ?_, ?_⟩
  · rw [World.entity_withObject e hq, hclass]
  · rw [World.entity_withObject e hq, hattributes]
  · rw [World.entity_withObject e hr, hbody]

/-- Registering and taking off listeners and raising events leaves the events as they are. -/
theorem isKept_keepsEvents (p : Nat) : IsKept KeepsEvents p fun _ => KeepsEvents where
  aside _ h := h
  on {i event w} h := by
    rw [h.runs_on]
    exact keepsEvents_withListeners w p _
  off {i event w} h := by
    rw [h.runs_off]
    exact keepsEvents_withListeners w p _
  raised {i event w} _ := fun e type source data h =>
    keepsEvents_withObject _ _ e type source data
      (keepsEvents_withObject _ _ e type source data h)
  refl _ := fun _ _ _ _ h => h
  trans h h' := fun e type source data hevent => h' e type source data (h e type source data hevent)

/-! ## Elements -/

namespace World

variable {w : World} {p q : Nat} {name : String} {v : Value}

/-- What an object keeps as an element. -/
def elementState (w : World) (p : Nat) : ElementState Value Value :=
  match (w.entity p).body with
  | .element s _ => s
  | .adapter s _ _ => s
  | _ => .empty

/-- The state in which an attribute of an object is set. -/
def withAttribute (w : World) (p : Nat) (name : String) (v : Value) : World :=
  w.withChange p fun e => { e with attributes := Entries.put e.attributes name v }

theorem elementState_withAttribute :
    (w.withAttribute q name v).elementState p = w.elementState p := by
  have hbody : ((w.withAttribute q name v).entity p).body = (w.entity p).body := by
    by_cases hpq : p = q
    · subst hpq
      by_cases hp : p < w.store.size
      · rw [withAttribute, entity_withChange_self hp]
      · simp [withAttribute, entity, withChange, Nat.le_of_not_lt hp]
    · rw [withAttribute, entity_withChange hpq]
  unfold elementState
  rw [hbody]

theorem withAttribute_withObject (w : World) (e : Entity) (name : String) (v : Value) :
    (w.withObject e).withAttribute w.store.size name v =
      w.withObject { e with attributes := Entries.put e.attributes name v } := by
  unfold withAttribute withChange withObject
  congr 1
  refine Array.ext (by simp) fun i h _ => ?_
  by_cases hi : i = w.store.size
  · simp [Array.getElem_modify, Array.getElem_push, hi]
  · have hlt : i < w.store.size := by simp at h; omega
    simp [Array.getElem_modify, Array.getElem_push, hlt, Ne.symm hi]

end World

namespace Act

variable {n p q : Nat} {w : World} {type : String}

theorem runs_elementOf (p : Nat) (w : World) : Runs (elementOf p).get w (w.elementState p) w := rfl

/-- An event of an element as it is made of a type and a detail. -/
def newElementEvent (type : String) (detail target : Value) : Entity :=
  { Entity.ofClass (.library .elementEvent) .plain with
    attributes := [("type", .text type), ("detail", detail), ("target", target),
      ("bubbles", .bool true)] }

theorem elementEvent_member?_ne (name : String) (c : ClassId) (getter setter : Option Code)
    (doc : Option String) :
    LibraryClass.elementEvent.member? name ≠ some (c, .accessor getter setter doc) := by
  have hall :
      LibraryClass.elementEvent.info.members.all (fun e => e.2 matches .constant _) = true := rfl
  intro hmember
  obtain ⟨d, hd, hfound⟩ := List.exists_of_findSome?_eq_some hmember
  obtain rfl : d = .library .elementEvent := List.mem_singleton.1 hd
  obtain ⟨m, hm, hpair⟩ := Option.map_eq_some_iff.1 hfound
  obtain ⟨rfl, rfl⟩ := Prod.mk.inj hpair
  cases List.all_eq_true.1 hall _ (Entries.mem_of_lookup hm)

theorem takesAttribute_of_elementEvent (hw : w.HasLibrary)
    (hclass : (w.entity p).class_ = .library .elementEvent) (hbody : (w.entity p).body = .plain)
    (name : String) : TakesAttribute w p name :=
  takesAttribute_of_library hw hclass hbody (elementEvent_member?_ne name) (by decide) rfl
    (by decide)

/-- Members of a new event are set as attributes. -/
theorem runs_setMembers_elementEvent (n : Nat) (hw : w.HasLibrary) (type : String)
    (members attributes : List (String × Value)) :
    Runs ((Calls.ofDepth (n + 1)).setMembers (.object w.store.size) members)
      (w.withObject { newElementEvent type .null .null with attributes }) ()
      (w.withObject { newElementEvent type .null .null with
        attributes := Entries.putAll attributes members }) := by
  induction members generalizing attributes with
  | nil => exact runs_pure _ _
  | cons m members ih =>
    obtain ⟨name, v⟩ := m
    let e : Entity := { newElementEvent type .null .null with attributes }
    have hentity : (w.withObject e).entity w.store.size = e := World.entity_withObject_self w e
    have htakes : TakesAttribute (w.withObject e) w.store.size name := by
      refine takesAttribute_of_elementEvent (hw.extends (.withObject (.refl w) e)) ?_ ?_ name
      · rw [hentity]
        rfl
      · rw [hentity]
        rfl
    have hset := htakes.runs_setObjectMember (.ofDepth n) (v := v)
    rw [← World.withAttribute, World.withAttribute_withObject] at hset
    exact Runs.bind hset (ih _)

/-- An event of an element is a new object with the type and the detail that it is made of. -/
theorem runs_makeElementEvent (n : Nat) (hw : w.HasLibrary) (type : String) (detail : Value) :
    Runs ((Calls.ofDepth (n + 2)).call (.classRef (.library .elementEvent)) []
        [("type", .text type), ("detail", detail)]) w (.object w.store.size)
      (w.withObject (newElementEvent type detail .null)) := by
  let blank : Entity := .ofClass (.library .elementEvent) .plain
  let bound : Arguments := ⟨[("type", .text type), ("detail", detail), ("target", .null),
    ("bubbles", .bool true)], [], none, [], none⟩
  have hmembers := runs_setMembers_elementEvent n hw type
    (["type", "detail", "target", "bubbles"].map fun name => (name, bound.get name)) []
  have hmake : Gives (makeBy (.ofDepth (n + 1)) (.object w.store.size) "ElementEvent"
      [.library .elementEvent] [] [("type", .text type), ("detail", detail)]) (w.withObject blank)
      fun _ w' => w' = w.withObject (newElementEvent type detail .null) := by
    have hwblank : (w.withObject blank).HasLibrary := hw.extends (.withObject (.refl w) blank)
    refine gives_makeBy_init bound hwblank rfl (fun _ => rfl) ?_
    exact Runs.bind_gives hmembers (gives_pure rfl)
  obtain ⟨v, w', hrun, rfl, rfl⟩ := gives_newObject (l := .elementEvent) hw hmake
  exact hrun

/-- The object can be sent as an event of a type: it has the type as an attribute, and its target
can be set as one. -/
structure CarriesType (w : World) (q : Nat) (type : String) : Prop where
  target : TakesAttribute w q "target"
  plain : ∀ owner getter setter doc,
    w.findMember? (w.info (w.entity q).class_).order "type" ≠
      some (owner, .accessor getter setter doc)
  type : (w.entity q).attributes.lookup "type" = some (.text type)

theorem carriesType_of_elementEvent (hw : w.HasLibrary)
    (hclass : (w.entity q).class_ = .library .elementEvent) (hbody : (w.entity q).body = .plain)
    (htype : (w.entity q).attributes.lookup "type" = some (.text type)) : CarriesType w q type where
  target := takesAttribute_of_elementEvent hw hclass hbody "target"
  plain := (takesAttribute_of_elementEvent hw hclass hbody "type").plain
  type := htype

/-- An event is sent to those who are registered with an element for its type. -/
theorem runs_dispatchEvent {i : Invocation} (hcalls : i.calls = .ofDepth (n + 1))
    (h : CarriesType w q type) :
    Runs (ElementOperation.dispatchEvent i (.object q)) w (.object q)
      (((w.elementState i.place).listeners.of (.text type)).foldl (told i.calls (.object q))
        (w.withAttribute q "target" i.self)) := by
  -- The target of the event is set first, which changes neither its type nor any listeners.
  let w₁ := w.withAttribute q "target" i.self
  have hq : q < w.store.size := by
    by_contra hnot
    have hblank : w.entity q = default := by simp [World.entity, Nat.le_of_not_lt hnot]
    have htype := h.type
    rw [hblank] at htype
    cases htype
  have hentity : w₁.entity q =
      { w.entity q with attributes := Entries.put (w.entity q).attributes "target" i.self } :=
    World.entity_withChange_self hq
  have hset : Runs (i.calls.setMember (.object q) "target" i.self) w () w₁ := by
    rw [hcalls]
    exact h.target.runs_setObjectMember (.ofDepth n)
  have hread : Runs (i.calls.member (.object q) "type") w₁ (.text type) w₁ := by
    rw [hcalls]
    refine runs_objectMember_plain (.ofDepth n) ?_ ?_
    · rw [hentity]
      exact (Entries.lookup_put_of_ne _ _ (by decide)).trans h.type
    · rw [hentity]
      exact h.plain
  have hlisteners := runs_elementOf i.place w₁
  rw [World.elementState_withAttribute] at hlisteners
  refine hset.bind (hread.bind ((runs_key_text type w₁).bind ?_))
  exact (runs_announce (hlisteners.bind (runs_pure _ w₁)) _ _ _).bind (runs_pure _ _)

/-- An event that is made of a type is sent to those who are registered with an element for it. -/
theorem runs_dispatch_text {i : Invocation} (hw : w.HasLibrary)
    (hcalls : i.calls = .ofDepth (n + 2)) (hplace : i.place < w.store.size)
    (hevent : i.arg "event" = .text type) :
    Runs (ElementOperation.run .dispatch i) w (.object w.store.size)
      (((w.elementState i.place).listeners.of (.text type)).foldl
        (told i.calls (.object w.store.size))
        (w.withObject (newElementEvent type (i.arg "detail") i.self))) := by
  let made := w.withObject (newElementEvent type (i.arg "detail") .null)
  have hentity : made.entity w.store.size = newElementEvent type (i.arg "detail") .null :=
    World.entity_withObject_self w _
  have hcarries : CarriesType made w.store.size type := by
    refine carriesType_of_elementEvent (hw.extends (.withObject (.refl w) _)) ?_ ?_ ?_
    · rw [hentity]
      rfl
    · rw [hentity]
      rfl
    · rw [hentity]
      rfl
  have hstate : made.elementState i.place = w.elementState i.place := by
    rw [World.elementState, World.entity_withObject _ hplace]
    rfl
  have hsent := runs_dispatchEvent hcalls hcarries
  rw [hstate, World.withAttribute_withObject] at hsent
  have hmake := runs_makeElementEvent n hw type (i.arg "detail")
  rw [← hcalls] at hmake
  rw [ElementOperation.run, hevent]
  exact hmake.bind hsent

theorem runs_dispatch_object {i : Invocation} (hcalls : i.calls = .ofDepth (n + 1))
    (hevent : i.arg "event" = .object q) (h : CarriesType w q type) :
    Runs (ElementOperation.run .dispatch i) w (.object q)
      (((w.elementState i.place).listeners.of (.text type)).foldl (told i.calls (.object q))
        (w.withAttribute q "target" i.self)) := by
  rw [ElementOperation.run, hevent]
  exact runs_dispatchEvent hcalls h

/-- The object is an element or an adapter. -/
def IsElement (w : World) (p : Nat) : Prop :=
  p < w.store.size ∧ ((∃ s steps, (w.entity p).body = .element s steps) ∨
    ∃ s a d, (w.entity p).body = .adapter s a d)

theorem gives_modify_element (h : IsElement w p)
    (f : ElementState Value Value → ElementState Value Value) :
    Gives ((elementOf p).modify f) w fun _ w' => w'.elementState p = f (w.elementState p) := by
  obtain ⟨hp, hbody⟩ := h
  refine (runs_elementOf p w).bind_gives ((runs_change p _ w).gives ?_)
  unfold World.elementState
  rw [World.entity_withChange_self hp]
  rcases hbody with ⟨s, steps, hbody⟩ | ⟨s, a, d, hbody⟩
  · simp only [hbody]
  · simp only [hbody]

/-- The listeners of an element changed as the registration says, and no others did. -/
def Registers (p : Nat) (r : Registration) (w w' : World) : Prop :=
  ∀ name, (w'.elementState p).listeners.of (.text name) =
    r.repeated name ((w.elementState p).listeners.of (.text name))

theorem gives_addListener {i : Invocation} {event : String} (h : IsElement w i.place)
    (hevent : i.arg "event_type" = .text event) :
    Gives (ElementOperation.run .addListener i) w fun _ w' =>
      Registers i.place (.on event (i.arg "listener")) w w' := by
  rw [ElementOperation.run, hevent]
  refine (runs_key_text event w).bind_gives ((gives_modify_element h _).bind fun _ w' hw' => ?_)
  apply gives_pure
  intro name
  rw [hw']
  exact Listeners.of_append _ _ _ _

theorem gives_removeListener {i : Invocation} {event : String} (h : IsElement w i.place)
    (hevent : i.arg "event_type" = .text event) :
    Gives (ElementOperation.run .removeListener i) w fun _ w' =>
      Registers i.place (.off event (i.arg "listener")) w w' := by
  rw [ElementOperation.run, hevent]
  refine (runs_key_text event w).bind_gives ((gives_modify_element h _).bind fun _ w' hw' => ?_)
  apply gives_pure
  intro name
  rw [hw']
  exact Listeners.of_removeFirst _ _ _ _

end Act

/-! ## Delivery -/

theorem isEventOf_raised (i : Invocation) (event : String) (w : World) :
    IsEventOf (raised i event w) (.object (w.store.size + 1)) event i.self i.args.named := by
  let record : Entity := .ofClass (.library .record) (.record i.args.named)
  have hsize : (w.withObject record).store.size = w.store.size + 1 := World.size_withObject w record
  have hself := World.entity_withObject_self (w.withObject record)
    { Entity.ofClass (.library .sceneEvent) .plain with
      attributes := [("type", .text event), ("target", i.self), ("data", .object w.store.size)] }
  rw [hsize] at hself
  refine ⟨w.store.size + 1, w.store.size, rfl, ?_, ?_, ?_⟩
  · rw [raised, hself]
    rfl
  · rw [raised, hself]
  · rw [raised, World.entity_withObject _ (by rw [hsize]; omega), World.entity_withObject_self]
    rfl

/-- An event that is raised at the place `p` in `w` is told to the listeners one after another,
whatever any of them does, and returned. -/
structure IsRaised (p : Nat) (listeners : List Value) (i : Invocation) (event : String) (w : World) :
    Prop where
  delivered : Runs (EventOperation.run .emit i) w (.object (w.store.size + 1))
    (listeners.foldl (told i.calls (.object (w.store.size + 1))) (raised i event w))
  made : IsEventOf (raised i event w) (.object (w.store.size + 1)) event i.self i.args.named
  /-- The event stays what it was made of if those who are told register, take off listeners and
  raise events in their turn, and do nothing aside that changes an event. -/
  stays : ∀ n part u, Delivers (Converses KeepsEvents p n) i.calls (.object (w.store.size + 1))
    listeners part (raised i event w) u →
      u = listeners.foldl (told i.calls (.object (w.store.size + 1))) (raised i event w) ∧
        IsEventOf u (.object (w.store.size + 1)) event i.self i.args.named

/-- What an element does with listeners: it registers one as often as it is asked to, takes one
registration off, and tells an event to those who listen at the start. -/
structure IsTelling (u : World) (i : Invocation) : Prop where
  registers : ∀ event, i.arg "event_type" = .text event →
    Gives (ElementOperation.run .addListener i) u fun _ u' =>
      Registers i.place (.on event (i.arg "listener")) u u'
  takesOff : ∀ event, i.arg "event_type" = .text event →
    Gives (ElementOperation.run .removeListener i) u fun _ u' =>
      Registers i.place (.off event (i.arg "listener")) u u'
  dispatchesType : ∀ type, i.arg "event" = .text type → u.HasLibrary →
    Runs (ElementOperation.run .dispatch i) u (.object u.store.size)
      (((u.elementState i.place).listeners.of (.text type)).foldl
        (told i.calls (.object u.store.size))
        (u.withObject (newElementEvent type (i.arg "detail") i.self)))
  dispatchesEvent : ∀ q type, i.arg "event" = .object q → CarriesType u q type →
    Runs (ElementOperation.run .dispatch i) u (.object q)
      (((u.elementState i.place).listeners.of (.text type)).foldl (told i.calls (.object q))
        (u.withAttribute q "target" i.self))

/-- The source of events at the place `p` in `w` tells events as the history says. -/
structure TellsAsRegistered (p : Nat) (history : List Registration) (w : World) : Prop where
  /-- Nobody is registered twice for an event. -/
  distinct : ∀ key, IsDistinct ((w.entity p).listeners.of key)
  listeners : ∀ event, (w.entity p).listeners.of (.text event) = registered event history
  raised : ∀ (i : Invocation) (event : String), IsAsked p event i w →
    IsRaised p (registered event history) i event w
  elements : ∀ (n : Nat) (u : World) (i : Invocation), i.calls = .ofDepth (n + 2) →
    IsElement u i.place → IsTelling u i

/-- After any history of a source of events, in which listeners may have registered and taken off
listeners and raised events while they were told of one: nobody is registered twice for an event,
and those are registered for it in order whom the history says. An event that is raised then, be it
in the midst of a delivery, is told to exactly these, one after another, whatever any of them does,
and returned. It stays what it was made of if those who are told register, take off listeners and
raise events in their turn, and do nothing aside that changes an event. Likewise, an event that an
element dispatches is told to exactly those who listen to it at the start, as often as they were
registered. -/
theorem told_as_registered {A : World → World → Prop} {p depth : Nat}
    {history : List Registration} {v w : World} (hnew : (v.entity p).listeners = .empty)
    (hhistory : Converses A p depth history v w) : TellsAsRegistered p history w := by
  -- What a history of registrations comes to is known of each step, and so of all of them.
  have hfollows := hhistory.kept (isKept_follows A p)
  have hlisteners (event : String) :
      (w.entity p).listeners.of (.text event) = registered event history := by
    rw [hfollows.listeners, hnew]
    rfl
  have hdistinct : (w.entity p).listeners.AreDistinct := by
    refine hfollows.distinct ?_
    rw [hnew]
    exact List.forall_mem_nil _
  constructor
  case distinct => exact hdistinct.of
  case listeners => exact hlisteners
  case raised =>
    intro i event h
    have hemit := h.runs_emit
    rw [hlisteners] at hemit
    have hmade := isEventOf_raised i event w
    refine ⟨hemit, hmade, fun n part u hdelivers => ?_⟩
    have hkept := isKept_keepsEvents p
    have hevent := hdelivers.kept hkept (fun _ _ _ => Converses.kept hkept) _ _ _ _ hmade
    exact ⟨hdelivers.foldl_eq.symm, hevent⟩
  case elements =>
    intro n u i hcalls helement
    constructor
    case registers => exact fun event hevent => gives_addListener helement hevent
    case takesOff => exact fun event hevent => gives_removeListener helement hevent
    case dispatchesType =>
      exact fun type hevent hu => runs_dispatch_text hu hcalls helement.1 hevent
    case dispatchesEvent =>
      exact fun q type hevent hcarries => runs_dispatch_object hcalls hevent hcarries

/-! ## A listener that is taken off while it waits -/

def firstListener : Value := .callable (.listener "first")

def secondListener : Value := .callable (.listener "second")

/-- A source of events to which nobody listens. -/
def quietWorld : World :=
  { (default : World) with store := #[.ofClass (.library .dispatcher) .plain] }

/-- Something is asked of the source about one event. -/
def aboutReady (calls : Calls) (listener : Value) : Invocation where
  calls := calls
  self := .object 0
  args := ⟨[("event_type", .text "ready"), ("listener", listener)], [], none, [], none⟩
  makeBase _ := return ()

/-- Listeners write down that they were called, and nothing else can be called. -/
def notingCalls : Calls where
  call callee _ _ := do
    if let .callable (.listener id) := callee then log (.called id .null none)
    return .null
  member _ _ := return .null
  setMember _ _ _ := return ()
  evaluate _ := return .null
  run _ := return []

/-- The first listener also takes the second one off the event, and fails. -/
def disloyalCalls : Calls where
  __ := notingCalls
  call callee args named := do
    let result ← notingCalls.call callee args named
    if callee == firstListener then
      discard (EventOperation.run .off (aboutReady notingCalls secondListener))
      fail (.raised .runtime "first")
    return result

/-- The state in which both listen to the event. -/
def heardWorld : World :=
  let listeners := Listeners.empty.on (.text "ready") firstListener
  quietWorld.withChange 0 ({ · with listeners := listeners.on (.text "ready") secondListener })

/-- An element with one listener, registered twice for an event. -/
def twiceHeard : World :=
  let once := Listeners.empty.append (.text "ready") firstListener
  let state : ElementState Value Value := .empty
  let twice := { state with listeners := once.append (.text "ready") firstListener }
  (World.start []).withObject (.ofClass (.library .element) (.element twice []))

def readyDispatch : Invocation where
  calls := .ofDepth 2
  self := .object (World.start []).store.size
  args := ⟨[("event", .text "ready"), ("detail", .null)], [], none, [], none⟩
  makeBase _ := return ()

/-- The second listener is told though the first one takes it off and fails; only the first one is
registered afterwards. An element tells a listener twice that is registered twice. -/
theorem second_told_after_off :
    Converses KeepsEvents 0 0 [.on "ready" firstListener, .on "ready" secondListener] quietWorld
        heardWorld ∧
      (∃ u, Runs (EventOperation.run .emit (aboutReady disloyalCalls .null)) heardWorld
          (.object 2) u ∧
        u.log = #[.called "first" .null none, .called "second" .null none] ∧
        (u.entity 0).listeners.of (.text "ready") = [firstListener] ∧
        IsEventOf u (.object 2) "ready" (.object 0) []) ∧
      let e := Value.object twiceHeard.store.size
      let made := twiceHeard.withObject (newElementEvent "ready" .null readyDispatch.self)
      Runs (ElementOperation.run .dispatch readyDispatch) twiceHeard e
        (told (.ofDepth 2) e (told (.ofDepth 2) e made firstListener) firstListener) := by
  have hasked (calls : Calls) (l : Value) {w : World} (hw : 0 < w.store.size) :
      IsAsked 0 "ready" (aboutReady calls l) w := ⟨rfl, rfl, hw⟩
  have hhistory : Converses KeepsEvents 0 0
      [.on "ready" firstListener, .on "ready" secondListener] quietWorld heardWorld :=
    .trans (.on (hasked notingCalls firstListener (by decide)))
      (.on (hasked notingCalls secondListener (by decide)))
  have htells := told_as_registered rfl hhistory
  have hraised := htells.raised _ _ (hasked disloyalCalls .null (by decide))
  let note (w : World) (id : String) : World :=
    { w with log := w.log.push (.called id .null none) }
  have hnotes (w : World) (id : String) : Converses KeepsEvents 0 0 [] w (note w id) :=
    .aside rfl fun _ _ _ _ h => h
  -- Both write into the log; the first one takes the second one off after that.
  let made := raised (aboutReady disloyalCalls .null) "ready" heardWorld
  have hfirst : Converses KeepsEvents 0 0 [.off "ready" secondListener] made
      (told disloyalCalls (.object 2) made firstListener) :=
    (hnotes made "first").trans (.off (hasked notingCalls secondListener (by decide)))
  obtain ⟨-, hevent⟩ := hraised.stays 0 _ _ (.cons hfirst (.cons (hnotes _ "second") (.nil _)))
  refine ⟨hhistory, ⟨_, hraised.delivered, rfl, rfl, hevent⟩, ?_⟩
  have helement : IsElement twiceHeard readyDispatch.place := ⟨by decide, .inl ⟨_, _, rfl⟩⟩
  exact (htells.elements 0 twiceHeard readyDispatch rfl helement).dispatchesType "ready" rfl
    fun _ => rfl

end SceneBridge
