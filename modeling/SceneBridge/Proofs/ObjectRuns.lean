import SceneBridge.Script.Run

/-!
# Running operations on objects

What a computation on the store gives from a state: its result, and the state that it
leaves. The rules go down a computation step by step. New objects leave the old ones as they
are, and a call of a member runs the operation that the class has under the name.
-/

namespace SceneBridge

/-! ## States -/

namespace World

variable {w w' w'' : World} {p q : Nat}

/-- The state with one more object. -/
def withObject (w : World) (e : Entity) : World :=
  { w with store := w.store.push e }

/-- The state with a changed object. -/
def withChange (w : World) (p : Nat) (f : Entity → Entity) : World :=
  { w with store := w.store.modify p f }

@[simp]
theorem info_withObject (w : World) (e : Entity) : (w.withObject e).info = w.info := rfl

@[simp]
theorem info_withChange (w : World) (p : Nat) (f : Entity → Entity) :
    (w.withChange p f).info = w.info := rfl

@[simp]
theorem size_withObject (w : World) (e : Entity) :
    (w.withObject e).store.size = w.store.size + 1 :=
  Array.size_push e

@[simp]
theorem size_withChange (w : World) (p : Nat) (f : Entity → Entity) :
    (w.withChange p f).store.size = w.store.size :=
  Array.size_modify

@[simp]
theorem entity_withObject_self (w : World) (e : Entity) :
    (w.withObject e).entity w.store.size = e := by
  simp [entity, withObject]

theorem entity_withObject (e : Entity) (hp : p < w.store.size) :
    (w.withObject e).entity p = w.entity p := by
  simp [entity, withObject, Array.getElem?_push, Nat.ne_of_lt hp]

theorem entity_withChange_self {f : Entity → Entity} (hp : p < w.store.size) :
    (w.withChange p f).entity p = f (w.entity p) := by
  simp [entity, withChange, Array.getElem?_modify, Array.getElem?_eq_getElem hp]

theorem entity_withChange {f : Entity → Entity} (hpq : p ≠ q) :
    (w.withChange q f).entity p = w.entity p := by
  simp [entity, withChange, Array.getElem?_modify, hpq.symm]

/-- The second state has all objects of the first one, as they were, and the same classes. -/
structure Extends (w w' : World) : Prop where
  info : w'.info = w.info
  size : w.store.size ≤ w'.store.size
  entity : ∀ p < w.store.size, w'.entity p = w.entity p

theorem Extends.refl (w : World) : w.Extends w :=
  ⟨rfl, Nat.le_refl _, fun _ _ => rfl⟩

theorem Extends.trans (h : w.Extends w') (h' : w'.Extends w'') : w.Extends w'' where
  info := h'.info.trans h.info
  size := Nat.le_trans h.size h'.size
  entity p hp := (h'.entity p (Nat.lt_of_lt_of_le hp h.size)).trans (h.entity p hp)

theorem Extends.withObject (h : w.Extends w') (e : Entity) : w.Extends (w'.withObject e) where
  info := h.info
  size := Nat.le_trans h.size (by simp)
  entity p hp := (entity_withObject e (Nat.lt_of_lt_of_le hp h.size)).trans (h.entity p hp)

/-- A change of a new object is no change of an old one. -/
theorem Extends.withChange (h : w.Extends w') {q : Nat} (hq : w.store.size ≤ q)
    (f : Entity → Entity) : w.Extends (w'.withChange q f) where
  info := h.info
  size := Nat.le_trans h.size (by simp)
  entity p hp := (entity_withChange (Nat.ne_of_lt (Nat.lt_of_lt_of_le hp hq))).trans (h.entity p hp)

/-- The classes of the library are as the library has them. -/
def HasLibrary (w : World) : Prop :=
  ∀ l, w.info (.library l) = l.info

theorem HasLibrary.extends (h : w.HasLibrary) (hw : w.Extends w') : w'.HasLibrary := by
  intro l
  rw [hw.info]
  exact h l

end World

/-! ## Members of the library -/

/-- The member of a name in the nearest class of the library that has one, with that class. -/
def LibraryClass.member? (l : LibraryClass) (name : String) : Option (ClassId × Member) :=
  l.info.order.findSome? fun
    | .library k => (k.info.members.lookup name).map (.library k, ·)
    | .custom _ => none

theorem LibraryClass.library_of_mem_order {l : LibraryClass} {c : ClassId}
    (hc : c ∈ l.info.order) : ∃ k, c = .library k := by
  have hall : l.info.order.all (fun c => c matches .library _) = true := by
    cases l <;> rfl
  have hthis := List.all_eq_true.1 hall c hc
  cases c with
  | library k => exact ⟨k, rfl⟩
  | custom i => cases hthis

theorem LibraryClass.lookup_of_member? {l : LibraryClass} {name : String} {c : ClassId}
    {m : Member} (h : l.member? name = some (c, m)) :
    ∃ k, c = .library k ∧ k.info.members.lookup name = some m := by
  obtain ⟨d, -, hd⟩ := List.exists_of_findSome?_eq_some h
  cases d with
  | library k =>
    obtain ⟨m', hm', heq⟩ := Option.map_eq_some_iff.1 hd
    cases heq
    exact ⟨k, rfl, hm'⟩
  | custom i => cases hd

/-- The attributes of a constructor are no computed properties. -/
theorem LibraryClass.constructor_member?_ne {name : String}
    (hname : name ∈ ["factory", "layout", "value_class"]) (c : ClassId) (getter setter : Option Code) (doc : Option String) :
    LibraryClass.constructor.member? name ≠ some (c, .accessor getter setter doc) := by
  have hfactory : LibraryClass.constructor.member? "factory" = none := rfl
  have hlayout : LibraryClass.constructor.member? "layout" =
      some (.library .constructor, .constant (.text "positional")) := rfl
  have hclass : LibraryClass.constructor.member? "value_class" =
      some (.library .constructor, .constant .null) := rfl
  simp only [List.mem_cons, List.not_mem_nil, or_false] at hname
  intro heq
  obtain rfl | rfl | rfl := hname
  · cases hfactory.symm.trans heq
  · cases hlayout.symm.trans heq
  · cases hclass.symm.trans heq

theorem World.HasLibrary.findMember? {w : World} (hw : w.HasLibrary) (l : LibraryClass)
    (name : String) : w.findMember? (w.info (.library l)).order name = l.member? name := by
  have hall : ∀ c ∈ l.info.order, ∃ k, c = .library k := fun c => l.library_of_mem_order
  rw [hw l, World.findMember?, LibraryClass.member?]
  generalize l.info.order = order at hall
  induction order with
  | nil => rfl
  | cons c order ih =>
    obtain ⟨k, rfl⟩ := hall c List.mem_cons_self
    rw [List.findSome?_cons, List.findSome?_cons, hw k,
      ih fun d hd => hall d (List.mem_cons_of_mem _ hd)]

namespace Act

variable {α β : Type} {w w₁ : World} {x : Act α} {f : α → Act β} {a : α}

/-! ## Results -/

/-- Run from the state, the computation succeeds, and `Q` holds of its result and of the state
that it leaves. -/
def Gives (x : Act α) (w : World) (Q : α → World → Prop) : Prop :=
  ∃ a w', x.run.run w = (.ok a, w') ∧ Q a w'

/-- Run from the state, the computation succeeds with this result, and leaves that state. -/
def Runs (x : Act α) (w : World) (a : α) (w' : World) : Prop :=
  x.run.run w = (.ok a, w')

theorem Runs.gives {Q : α → World → Prop} (hx : Runs x w a w₁) (hQ : Q a w₁) : Gives x w Q :=
  ⟨a, w₁, hx, hQ⟩

theorem Gives.mono {P Q : α → World → Prop} (hx : Gives x w P) (h : ∀ a w', P a w' → Q a w') :
    Gives x w Q := by
  obtain ⟨a, w', hx, hP⟩ := hx
  exact ⟨a, w', hx, h a w' hP⟩

theorem Runs.unique {b : α} {w₂ : World} (hx : Runs x w a w₁) (hy : Runs x w b w₂) :
    a = b ∧ w₁ = w₂ := by
  cases Eq.trans (Eq.symm hx) hy
  exact ⟨rfl, rfl⟩

theorem runs_bind (hx : Runs x w a w₁) : (x >>= f).run.run w = (f a).run.run w₁ := by
  unfold Runs at hx
  rw [ExceptT.run_bind, StateT.run_bind, hx]
  rfl

theorem Runs.bind {b : β} {w₂ : World} (hx : Runs x w a w₁) (hf : Runs (f a) w₁ b w₂) :
    Runs (x >>= f) w b w₂ :=
  (runs_bind hx).trans hf

theorem Runs.bind_gives {Q : β → World → Prop} (hx : Runs x w a w₁) (hf : Gives (f a) w₁ Q) :
    Gives (x >>= f) w Q := by
  obtain ⟨b, w₂, hf, hQ⟩ := hf
  exact ⟨b, w₂, (runs_bind hx).trans hf, hQ⟩

theorem Gives.bind {P : α → World → Prop} {Q : β → World → Prop} (hx : Gives x w P)
    (hf : ∀ a w₁, P a w₁ → Gives (f a) w₁ Q) : Gives (x >>= f) w Q := by
  obtain ⟨a, w₁, hx, hP⟩ := hx
  exact Runs.bind_gives hx (hf a w₁ hP)

theorem runs_pure (a : α) (w : World) : Runs (pure a : Act α) w a w := rfl

theorem gives_pure {Q : α → World → Prop} (h : Q a w) : Gives (pure a : Act α) w Q :=
  (runs_pure a w).gives h

theorem runs_discard (hx : Runs x w a w₁) : Runs (discard x) w () w₁ := by
  change Runs ((fun _ => ()) <$> x) w () w₁
  rw [map_eq_pure_bind]
  exact hx.bind (runs_pure () w₁)

theorem runs_ofExcept (a : α) (w : World) : Runs (ofExcept (.ok a : Except Fault α)) w a w := rfl

theorem runs_lift (a : α) (w : World) :
    Runs (Conversion.lift (.ok a : Except Fault α) : Act α) w a w := rfl

theorem Gives.map {g : α → β} {Q : β → World → Prop} (hx : Gives x w fun a w' => Q (g a) w') :
    Gives (g <$> x) w Q := by
  rw [map_eq_pure_bind]
  exact hx.bind fun _ _ hQ => gives_pure hQ

/-- A computation that succeeds has no fault to be caught. -/
theorem Gives.tryCatch {handle : Fault → Act α} {Q : α → World → Prop} (hx : Gives x w Q) :
    Gives (tryCatchThe Fault x handle) w Q := by
  obtain ⟨a, w₁, hx, hQ⟩ := hx
  refine ⟨a, w₁, ?_, hQ⟩
  have hrun : StateT.run (x : StateM World (Except Fault α)) w = (.ok a, w₁) := hx
  simp only [tryCatchThe, MonadExceptOf.tryCatch, ExceptT.tryCatch, ExceptT.run_mk]
  rw [StateT.run_bind, hrun]
  rfl

theorem run_bind_error {w' : World} {fault : Fault} (hx : x.run.run w = (.error fault, w')) :
    (x >>= f).run.run w = (.error fault, w') := by
  rw [ExceptT.run_bind, StateT.run_bind, hx]
  rfl

theorem Runs.tryCatch {handle : Fault → Act α} (hx : Runs x w a w₁) :
    Runs (tryCatchThe Fault x handle) w a w₁ := by
  have hgives : Gives x w fun b v => b = a ∧ v = w₁ := hx.gives ⟨rfl, rfl⟩
  have hcaught : Gives (tryCatchThe Fault x handle) w fun b v => b = a ∧ v = w₁ := hgives.tryCatch
  obtain ⟨_, _, hrun, rfl, rfl⟩ := hcaught
  exact hrun

/-- A fault is handled in the state that it leaves. -/
theorem run_tryCatch_error {handle : Fault → Act α} {w' : World} {fault : Fault}
    (hx : x.run.run w = (.error fault, w')) :
    (tryCatchThe Fault x handle).run.run w = (handle fault).run.run w' := by
  have hrun : StateT.run (x : StateM World (Except Fault α)) w = (.error fault, w') := hx
  simp only [tryCatchThe, MonadExceptOf.tryCatch, ExceptT.tryCatch, ExceptT.run_mk]
  rw [StateT.run_bind, hrun]
  rfl

/-- A computation for each item of a list, none of which changes anything. -/
theorem runs_mapM {γ : Type} {g : γ → Act α} {h : γ → α} {items : List γ}
    (hg : ∀ c ∈ items, Runs (g c) w (h c) w) : Runs (items.mapM g) w (items.map h) w := by
  induction items with
  | nil => exact runs_pure [] w
  | cons c cs ih =>
    rw [List.mapM_cons]
    refine (hg c List.mem_cons_self).bind ?_
    exact (ih fun d hd => hg d (List.mem_cons_of_mem _ hd)).bind (runs_pure _ w)

/-! ## Outcomes -/

/-- Run from the state, the computation ends with an outcome and in a state of which `Q` holds. -/
def Ends (x : Act α) (w : World) (Q : Except Fault α → World → Prop) : Prop :=
  Q (x.run.run w).1 (x.run.run w).2

theorem runs_of_ends (hx : Ends x w fun r w' => r = .ok a ∧ w' = w₁) : Runs x w a w₁ :=
  Prod.ext hx.1 hx.2

theorem Ends.of_eq {y : Act α} {Q : Except Fault α → World → Prop}
    (h : x.run.run w = y.run.run w₁) (hy : Ends y w₁ Q) : Ends x w Q := by
  unfold Ends
  rw [h]
  exact hy

theorem Runs.bind_ends {Q : Except Fault β → World → Prop} (hx : Runs x w a w₁)
    (hf : Ends (f a) w₁ Q) : Ends (x >>= f) w Q :=
  .of_eq (runs_bind hx) hf

/-- Whatever its outcome is, the computation changes nothing. -/
def Looks (x : Act α) : Prop :=
  ∀ w, (x.run.run w).2 = w

theorem looks_of_runs {g : World → α} (h : ∀ w, Runs x w (g w) w) : Looks x := by
  intro w
  rw [h w]

theorem looks_pure (a : α) : Looks (pure a : Act α) := fun _ => rfl

theorem looks_fail (fault : Fault) : Looks (fail fault : Act α) := fun _ => rfl

theorem Ends.bind {P : Except Fault α → World → Prop} {Q : Except Fault β → World → Prop}
    (hx : Ends x w P) (herror : ∀ fault w', P (.error fault) w' → Q (.error fault) w')
    (hf : ∀ a w', P (.ok a) w' → Ends (f a) w' Q) : Ends (x >>= f) w Q := by
  unfold Ends at hx ⊢
  rw [ExceptT.run_bind, StateT.run_bind]
  generalize x.run.run w = outcome at hx ⊢
  obtain ⟨r, w'⟩ := outcome
  cases r with
  | error fault => exact herror fault w' hx
  | ok a => exact hf a w' hx

/-- What only looks either fails in the same state or goes on in it. -/
theorem Looks.bind_ends {Q : Except Fault β → World → Prop} (hx : Looks x)
    (herror : ∀ fault, Q (.error fault) w) (hf : ∀ a, Ends (f a) w Q) : Ends (x >>= f) w Q := by
  refine Ends.bind (P := fun _ w' => w' = w) (hx w) ?_ ?_
  · rintro fault w' rfl
    exact herror fault
  · rintro a w' rfl
    exact hf a

theorem Looks.bind (hx : Looks x) (hf : ∀ a, Looks (f a)) : Looks (x >>= f) :=
  fun w => hx.bind_ends (Q := fun _ w' => w' = w) (fun _ => rfl) fun a => hf a w

theorem discard_bind {g : Unit → Act β} : (discard x >>= g) = x >>= fun _ => g () := by
  change ((fun _ => ()) <$> x) >>= g = _
  rw [map_eq_pure_bind, bind_assoc]
  simp only [pure_bind]

/-! ## The store -/

theorem runs_get (w : World) : Runs get w w w := rfl

theorem runs_entity (p : Nat) (w : World) : Runs (entity p) w (w.entity p) w := rfl

theorem runs_classInfo (c : ClassId) (w : World) : Runs (classInfo c) w (w.info c) w := rfl

theorem runs_body (p : Nat) (w : World) : Runs (body (.object p)) w (w.entity p).body w := rfl

theorem runs_keep (e : Entity) (w : World) : Runs (keep e) w w.store.size (w.withObject e) := rfl

theorem runs_change (p : Nat) (f : Entity → Entity) (w : World) :
    Runs (change p f) w () (w.withChange p f) := rfl

theorem runs_newList (items : List Value) (w : World) :
    Runs (newList items) w (.object w.store.size)
      (w.withObject (.ofClass (.library .list) (.list items))) := rfl

theorem runs_newArray (a : NumArray) (w : World) :
    Runs (newArray a) w (.object w.store.size)
      (w.withObject (.ofClass (.library .array) (.array a))) := rfl

/-! ## Seeing values -/

theorem runs_see (v : Value) (w : World) : Runs (see v) w (w.see World.depthLimit v) w := rfl

@[simp]
theorem see_text (s : String) (depth : Nat) : w.see depth (.text s) = .text s := by
  rw [World.see]

@[simp]
theorem see_int (n : Int) (depth : Nat) : w.see depth (.int n) = .int n := by
  rw [World.see]

@[simp]
theorem see_float (x : Float) (depth : Nat) : w.see depth (.float x) = .float x := by
  rw [World.see]

theorem seeAll_floats (xs : List Float) (depth : Nat) :
    w.seeAll depth (xs.map .float) = xs.map Datum.float := by
  induction xs with
  | nil => rw [List.map_nil, World.seeAll, List.map_nil]
  | cons x xs ih => rw [List.map_cons, World.seeAll, see_float, ih, List.map_cons]

/-- A list of doubles is seen as one. -/
theorem see_floats {p : Nat} {xs : List Float} (h : (w.entity p).body = .list (xs.map .float))
    (depth : Nat) : w.see (depth + 1) (.object p) = .list (xs.map .float) := by
  rw [World.see, World.seeObject]
  simp only [h, seeAll_floats]

theorem runs_plain_text (text : String) (w : World) : Runs (plain (.text text)) w text w := by
  have hseen : Runs (seeWritable (.text text)) w (.text text) w := by
    refine (runs_see (.text text) w).bind ?_
    rw [see_text]
    exact runs_pure _ w
  exact hseen.bind (runs_pure text w)

/-! ## Members -/

section Members

variable {n p : Nat} {l : LibraryClass} {name : String} {owner : ClassId} {r : Routine} {v : Value}

theorem runs_objectMember_method {calls : Calls} (hw : w.HasLibrary)
    (hclass : (w.entity p).class_ = .library l)
    (hattributes : (w.entity p).attributes.lookup name = none)
    (hmember : l.member? name = some (owner, .routine r)) :
    Runs (objectMember calls p name) w (.callable (.method (.object p) owner name)) w := by
  refine (runs_entity p w).bind ((runs_get w).bind ?_)
  simp only [hclass, hw.findMember?, hmember, hattributes]
  exact runs_pure _ w

/-- An attribute of an object is read, unless its class has a computed property of that name. -/
theorem runs_objectMember_plain (calls : Calls)
    (hattributes : (w.entity p).attributes.lookup name = some v)
    (hplain : ∀ owner getter setter doc,
      w.findMember? (w.info (w.entity p).class_).order name ≠
        some (owner, .accessor getter setter doc)) :
    Runs (objectMember calls p name) w v w := by
  refine (runs_entity p w).bind ((runs_get w).bind ?_)
  dsimp only
  split
  · rename_i hfound
    exact absurd hfound (hplain _ _ _ _)
  · simp only [hattributes]
    exact runs_pure v w

theorem runs_objectMember_attribute {calls : Calls} (hw : w.HasLibrary)
    (hclass : (w.entity p).class_ = .library l)
    (hattributes : (w.entity p).attributes.lookup name = some v)
    (hmember : ∀ c getter setter doc, l.member? name ≠ some (c, .accessor getter setter doc)) :
    Runs (objectMember calls p name) w v w := by
  refine runs_objectMember_plain calls hattributes ?_
  rw [hclass, hw.findMember?]
  exact hmember

section Operations

variable {op : Operation} {params : List Param} {returns : Option Annotation} {doc : Option String}
  {args : List Value} {Q : Value → World → Prop}

/-- Calling the method of a class runs its operation, on the class itself if need be. -/
theorem run_callMethod (bound : Arguments) {receiver : Value} {k : LibraryClass} {r : Routine}
    {named : List (String × Value)} (hw : w.HasLibrary)
    (hlookup : k.info.members.lookup name = some (.routine r) ∨
      ∃ on, k.info.members.lookup name = some (.shared on r))
    (hcode : r.code = .operation op)
    (hbound : ∀ callee, Arguments.bind callee r.params args named = .ok bound) :
    ((Calls.ofDepth (n + 1)).call (.callable (.method receiver (.library k) name)) args
        named).run.run w =
      (op.run ⟨.ofDepth n, receiver, bound, fun _ => pure ()⟩).run.run w := by
  have hroutine (callee : String) :
      (runRoutine (.ofDepth n) callee receiver r args named).run.run w =
        (op.run ⟨.ofDepth n, receiver, bound, fun _ => pure ()⟩).run.run w := by
    rw [runRoutine, hbound, hcode]
    exact runs_bind (runs_ofExcept bound w)
  refine (runs_bind (runs_classInfo _ w)).trans ?_
  obtain hlookup | ⟨on, hlookup⟩ := hlookup
  · simp only [hw k, hlookup]
    exact hroutine _
  · simp only [hw k, hlookup]
    exact hroutine _

theorem gives_callMethod (bound : Arguments) {receiver : Value} {k : LibraryClass} {r : Routine}
    (hw : w.HasLibrary)
    (hlookup : k.info.members.lookup name = some (.routine r) ∨
      ∃ on, k.info.members.lookup name = some (.shared on r))
    (hcode : r.code = .operation op)
    (hbound : ∀ callee, Arguments.bind callee r.params args [] = .ok bound)
    (hop : Gives (op.run ⟨.ofDepth n, receiver, bound, fun _ => pure ()⟩) w Q) :
    Gives ((Calls.ofDepth (n + 1)).call (.callable (.method receiver (.library k) name)) args [])
      w Q := by
  obtain ⟨v, w', hrun, hQ⟩ := hop
  exact ⟨v, w', (run_callMethod bound hw hlookup hcode hbound).trans hrun, hQ⟩

/-- Calling a member runs the operation that the class has under the name. -/
theorem run_callMember (bound : Arguments) {named : List (String × Value)} (hw : w.HasLibrary)
    (hclass : (w.entity p).class_ = .library l)
    (hattributes : (w.entity p).attributes.lookup name = none)
    (hmember : l.member? name = some (owner, .routine ⟨params, returns, .operation op, doc⟩))
    (hbound : ∀ callee, Arguments.bind callee params args named = .ok bound) :
    (do (Calls.ofDepth (n + 1)).call (← (Calls.ofDepth (n + 1)).member (.object p) name) args named
        : Act Value).run.run w =
      (op.run ⟨.ofDepth n, .object p, bound, fun _ => pure ()⟩).run.run w := by
  obtain ⟨k, rfl, hlookup⟩ := LibraryClass.lookup_of_member? hmember
  refine (runs_bind (runs_objectMember_method hw hclass hattributes hmember)).trans ?_
  exact run_callMethod bound hw (.inl hlookup) rfl hbound

theorem gives_send (bound : Arguments) (hw : w.HasLibrary)
    (hclass : (w.entity p).class_ = .library l)
    (hattributes : (w.entity p).attributes.lookup name = none)
    (hmember : l.member? name = some (owner, .routine ⟨params, returns, .operation op, doc⟩))
    (hbound : ∀ callee, Arguments.bind callee params args [] = .ok bound)
    (hop : Gives (op.run ⟨.ofDepth n, .object p, bound, fun _ => pure ()⟩) w Q) :
    Gives ((Calls.ofDepth (n + 1)).send (.object p) name args) w Q := by
  obtain ⟨v, w', hrun, hQ⟩ := hop
  exact ⟨v, w', (run_callMember bound hw hclass hattributes hmember hbound).trans hrun, hQ⟩

end Operations

/-- Setting this member of the object sets an attribute: its class says nothing else of the member,
and lets its objects be changed. -/
structure TakesAttribute (w : World) (p : Nat) (name : String) : Prop where
  body : (w.entity p).body = .plain
  plain : ∀ owner getter setter doc,
    w.findMember? (w.info (w.entity p).class_).order name ≠
      some (owner, .accessor getter setter doc)
  unfrozen : (frozenClasses.any fun k => w.inherits (w.entity p).class_ k) = false
  place : lacksPlace w (w.entity p).class_ name = false

theorem TakesAttribute.runs_setObjectMember (calls : Calls) (h : TakesAttribute w p name) :
    Runs (setObjectMember calls p name v) w ()
      (w.withChange p fun e => { e with attributes := Entries.put e.attributes name v }) := by
  refine (runs_entity p w).bind ((runs_get w).bind ?_)
  simp only [h.body]
  split
  · rename_i hfound
    exact absurd hfound (h.plain _ _ _ _)
  · rename_i hfound
    exact absurd hfound (h.plain _ _ _ _)
  · simp only [h.unfrozen, h.place]
    exact runs_change p _ w

theorem takesAttribute_of_library (hw : w.HasLibrary) (hclass : (w.entity p).class_ = .library l)
    (hbody : (w.entity p).body = .plain)
    (hmember : ∀ c getter setter doc, l.member? name ≠ some (c, .accessor getter setter doc))
    (hfrozen : ∀ k ∈ frozenClasses, .library k ∉ l.info.order)
    (hslots : l.info.slots = none) (horder : .library l ∈ l.info.order) :
    TakesAttribute w p name := by
  refine ⟨hbody, ?_, ?_, ?_⟩
  · rw [hclass, hw.findMember?]
    exact hmember
  · rw [hclass, List.any_eq_false]
    intro k hk
    simpa [World.inherits, hw l] using hfrozen k hk
  · have hnone : (w.info (.library l)).order.all (fun k => (w.info k).slots.isSome) = false := by
      rw [List.all_eq_false]
      exact ⟨.library l, by rwa [hw l], by simp [hw l, hslots]⟩
    rw [hclass, lacksPlace, hnone, Bool.false_and]

/-- Setting a member sets the attribute, where the class says nothing else. -/
theorem runs_setMember (hw : w.HasLibrary) (hclass : (w.entity p).class_ = .library l)
    (hbody : (w.entity p).body = .plain) (hmember : l.member? name = none)
    (hfrozen : ∀ k ∈ frozenClasses, .library k ∉ l.info.order)
    (hslots : l.info.slots = none) (horder : .library l ∈ l.info.order) :
    Runs ((Calls.ofDepth (n + 1)).setMember (.object p) name v) w ()
      (w.withChange p fun e => { e with attributes := Entries.put e.attributes name v }) := by
  refine TakesAttribute.runs_setObjectMember (.ofDepth n) ?_
  exact takesAttribute_of_library hw hclass hbody (by simp [hmember]) hfrozen hslots horder

end Members

end Act

end SceneBridge
