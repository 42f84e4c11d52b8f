import SceneBridge.Adapter.Factory
import SceneBridge.Component.Table
import SceneBridge.Proofs.Possible
import SceneBridge.Proofs.RegistryEntries
import SceneBridge.Reflect.Cache

/-!
# Components among unknown classes

The table of components, the factory of definitions and the remembered metadata, among classes
whose code is not known: making an instance, reading its members and setting attributes may fail
or return anything, and may ask for components, as often and as deeply nested as they like.
-/

namespace SceneBridge

open Possibly

/-! ## The world -/

/-- An object made for a class, told from all others by its number. -/
structure ForClass (C : Type) where
  number : Nat
  target : C
  /-- The properties that attributes stand for. -/
  properties : List String

/-- A component, told from all others by its number. -/
structure Component (C : Type) where
  number : Nat
  tag : Datum
  definition : ForClass C

/-- An element of a definition, told from all other objects by its number. -/
structure ElementOf (C : Type) where
  number : Nat
  definition : ForClass C

/-- Does the attribute stand for a property of the element? -/
def ElementOf.reflects {C : Type} (element : ElementOf C) (attr : String) : Bool :=
  element.definition.properties.any (Text.smallText · == attr)

/-- Components, definitions, metadata and elements, and what the tags start with. -/
structure ComponentWorld (C : Type) where
  table : Registry (Component C)
  definitions : List (C × ForClass C)
  cache : MetadataCache C (ForClass C)
  start : String
  /-- How many objects were made. -/
  made : Nat
  /-- The attributes of each element, by its number. -/
  attributes : Nat → List (String × String)
  /-- How often the table was cleared. -/
  clears : Nat

namespace ComponentWorld

variable {C : Type}

/-- The table of components. -/
def components : Cell (Possibly (ComponentWorld C)) (Registry (Component C)) :=
  cell table fun table w => { w with table }

/-- A new object. -/
def numbered {α : Type} (make : Nat → α) : Possibly (ComponentWorld C) α := do
  let number ← read made
  change fun w => { w with made := w.made + 1 }
  return make number

/-- The world with one more element, which has the given attributes. -/
def withElement (w : ComponentWorld C) (texts : List (String × String)) : ComponentWorld C :=
  { w with made := w.made + 1, attributes := Function.update w.attributes w.made texts }

/-- The world with the text of an attribute of an element. -/
def withAttribute (w : ComponentWorld C) (number : Nat) (attr text : String) : ComponentWorld C :=
  { w with
    attributes := Function.update w.attributes number (Entries.put (w.attributes number) attr text) }

/-- The table without its components. -/
def cleared (w : ComponentWorld C) : ComponentWorld C :=
  { w with table := .empty, clears := w.clears + 1 }

section Kinds

variable [BEq C] (name : C → String) (code : Possibly (ComponentWorld C) Unit)

/-- The metadata of a class. -/
def metadataFor : C → Possibly (ComponentWorld C) (ForClass C) :=
  MetadataCache.metadataFor (cell cache fun cache w => { w with cache })
    (fun c => pure (name c))
    (fun _ => (anything code : Possibly (ComponentWorld C) Unit))
    fun c _ => do
      let properties ← anything code
      numbered (⟨·, c, properties⟩)

/-- How definitions are built. -/
def factory : DefinitionFactory (Possibly (ComponentWorld C)) C (ForClass C) (ForClass C) where
  known := cell definitions fun definitions w => { w with definitions }
  metadata := metadataFor name code
  define _ metadata := numbered (⟨·, metadata.target, metadata.properties⟩)

/-- How components are seen and made. -/
def kind : ComponentKind (Possibly (ComponentWorld C)) C (ForClass C) (Component C) where
  target component := pure component.definition.target
  className c := pure (name c)
  tag component := pure component.tag.plain
  definition component := pure component.definition
  build := (factory name code).build
  make tag definition := numbered (⟨·, tag, definition⟩)

/-- Defines a component for a class under a tag, or under its own. -/
def define (tag? : Option Datum) (c : C) : Possibly (ComponentWorld C) (Component C) :=
  (kind name code).defineAs components (read start) tag? c

/-- A new element of a definition, for a new instance of its class. -/
def newElement (definition : ForClass C) : Possibly (ComponentWorld C) (ElementOf C) := do
  anything code
  let number ← read made
  change (·.withElement [])
  return ⟨number, definition⟩

/-- Sets an attribute of an element to the text of a value, and the property that it stands for. -/
def setAttribute (element : ElementOf C) (name : String) (value : Datum) :
    Possibly (ComponentWorld C) Unit := do
  if value.isWritable then
    change (·.withAttribute element.number (Text.smallText name) value.plain)
    if element.reflects (Text.smallText name) then anything code
  else throw .unwritten

/-- A new element of a definition, with attributes. -/
def create (attributes : List (String × Datum)) (definition : ForClass C) :
    Possibly (ComponentWorld C) (ElementOf C) :=
  newAdapter (newElement code) (setAttribute code) definition attributes

/-- A new element by tag, with attributes. -/
def createElement (tag : Datum) (attributes : List (String × Datum)) :
    Possibly (ComponentWorld C) (ElementOf C) :=
  (kind name code).element components (create code attributes) tag

end Kinds

/-! ## Operations -/

/-- What is asked for, by whoever works with components or by the code of the classes. -/
inductive Operation (C : Type) where
  | define (tag? : Option Datum) (c : C)
  /-- The setting of what the tags start with changes. -/
  | setStart (start : String)
  | clear
  | get (tag : Datum)
  | tags
  | createElement (tag : Datum) (attributes : List (String × Datum))
  /-- A definition is built elsewhere. -/
  | build (c : C)
  /-- The remembered metadata is forgotten. -/
  | forget

variable [BEq C] (name : C → String)

/-- What the operation does among classes whose code does `code`. -/
def Operation.run (code : Possibly (ComponentWorld C) Unit) :
    Operation C → Possibly (ComponentWorld C) Unit
  | define tag? c => do let _ ← ComponentWorld.define name code tag? c
  | setStart start => change fun w => { w with start }
  | clear => change cleared
  | get tag => do let _ ← ComponentKind.get components tag
  | tags => do let _ ← (kind name code).tags components
  | createElement tag attributes => do
    let _ ← ComponentWorld.createElement name code tag attributes
  | build c => do let _ ← (factory name code).build c
  | forget => change fun w => { w with cache := .empty }

/-- All that the code of the classes may do if it asks for such operations only, and if calls are
nested to a depth. -/
def behave (asked : Operation C → Prop) : (depth : Nat) → Possibly (ComponentWorld C) Unit
  | 0 => pure ()
  | n + 1 => often (choose fun op : { op : Operation C // asked op } =>
      op.1.run name (behave asked n))

/-- What the operation may come to, however deeply the code of the classes asks for others. -/
def Operation.possibly (asked : Operation C → Prop) (op : Operation C) :
    Possibly (ComponentWorld C) Unit :=
  choose fun depth => op.run name (behave name asked depth)

/-- Nothing was asked for yet. -/
structure IsNew (w : ComponentWorld C) : Prop where
  table : w.table = .empty
  definitions : w.definitions = []
  cache : w.cache = .empty

/-! ## What is kept -/

/-- The entries are under the keys of their tags, and what is kept for a class is for this class. -/
structure IsSound (w : ComponentWorld C) : Prop where
  nodup : (w.table.entries.map (·.1)).Nodup
  tagged : ∀ {key component}, (key, component) ∈ w.table.entries →
    Registry.keyOfDatum component.tag = .ok key
  definitions : ∀ {c d}, w.definitions.lookup c = some d → d.target = c
  cache : ∀ {c d}, w.cache.entries.lookup c = some d → d.target = c

/-- Until the table is cleared, the tags stay with their components. -/
structure Leads (w t : ComponentWorld C) : Prop where
  clears : w.clears ≤ t.clears
  kept : t.clears = w.clears → ∀ {tag component}, w.table.lookup? tag = some component →
    t.table.lookup? tag = some component

omit [BEq C] in
theorem leads_isStep : IsStep (Leads (C := C)) where
  refl w := ⟨Nat.le_refl _, fun _ _ _ h => h⟩
  trans {s t u} h₁ h₂ := by
    refine ⟨Nat.le_trans h₁.clears h₂.clears, fun h _ _ htag => ?_⟩
    have hfirst : t.clears = s.clears := by
      have := h₁.clears
      have := h₂.clears
      omega
    exact h₂.kept (h.trans hfirst.symm) (h₁.kept hfirst htag)

/-- However the computation ends, the state then is sound, and the tags stayed with their
components; what it returns, with the state then, is as `Q` says. -/
def Keeps {α : Type} (x : Possibly (ComponentWorld C) α) (w : ComponentWorld C)
    (Q : α → ComponentWorld C → Prop) : Prop :=
  ∀ outcome t, x w (outcome, t) → t.IsSound ∧ w.Leads t ∧ ∀ a, outcome = .ok a → Q a t

/-- The computation keeps what is sound. -/
def IsTame {α : Type} (x : Possibly (ComponentWorld C) α) : Prop :=
  ∀ w : ComponentWorld C, w.IsSound → Keeps x w fun _ _ => True

namespace Keeps

variable {α β : Type} {w : ComponentWorld C} {x : Possibly (ComponentWorld C) α}
  {P Q : α → ComponentWorld C → Prop}

theorem mono (hx : Keeps x w P) (h : ∀ a t, P a t → Q a t) : Keeps x w Q := by
  intro outcome t hrun
  obtain ⟨hsound, hleads, hP⟩ := hx outcome t hrun
  exact ⟨hsound, hleads, fun a ha => h a t (hP a ha)⟩

theorem pure {a : α} (hw : w.IsSound) (h : Q a w) :
    Keeps (Pure.pure a : Possibly (ComponentWorld C) α) w Q := by
  intro outcome t hrun
  obtain ⟨rfl, rfl⟩ := Prod.mk.inj hrun
  refine ⟨hw, leads_isStep.refl t, fun b hb => ?_⟩
  cases hb
  exact h

theorem throw (hw : w.IsSound) (fault : Fault) :
    Keeps (throwThe Fault fault : Possibly (ComponentWorld C) α) w Q := by
  intro outcome t hrun
  obtain ⟨rfl, rfl⟩ := Prod.mk.inj hrun
  exact ⟨hw, leads_isStep.refl t, nofun⟩

theorem change {f : ComponentWorld C → ComponentWorld C} {Q : Unit → ComponentWorld C → Prop}
    (hsound : (f w).IsSound) (hleads : w.Leads (f w)) (h : Q () (f w)) :
    Keeps (Possibly.change f) w Q := by
  intro outcome t hrun
  obtain ⟨rfl, rfl⟩ := Prod.mk.inj hrun
  exact ⟨hsound, hleads, fun _ _ => h⟩

theorem bind {f : α → Possibly (ComponentWorld C) β} {Q : β → ComponentWorld C → Prop}
    (hx : Keeps x w P) (hf : ∀ a t, t.IsSound → P a t → Keeps (f a) t Q) :
    Keeps (x >>= f) w Q := by
  rintro outcome u hrun
  obtain ⟨fault, rfl, hfault⟩ | ⟨a, t, hfirst, hrest⟩ := bind_cases hrun
  · obtain ⟨hsound, hleads, -⟩ := hx _ _ hfault
    exact ⟨hsound, hleads, nofun⟩
  · obtain ⟨hsound, hleads, hP⟩ := hx _ _ hfirst
    obtain ⟨hsound', hleads', hQ⟩ := hf a t hsound (hP a rfl) _ _ hrest
    exact ⟨hsound', leads_isStep.trans hleads hleads', hQ⟩

theorem read_bind {γ : Type} {g : ComponentWorld C → γ} {f : γ → Possibly (ComponentWorld C) α}
    (hf : Keeps (f (g w)) w Q) : Keeps (read g >>= f) w Q :=
  fun outcome t hrun => hf outcome t (Possibly.read_bind.1 hrun)

theorem tryCatch {handle : Fault → Possibly (ComponentWorld C) α} (hx : Keeps x w Q)
    (hhandle : ∀ fault t, t.IsSound → Keeps (handle fault) t Q) :
    Keeps (tryCatchThe Fault x handle) w Q := by
  rintro outcome u ⟨inner, t, hrun, hrest⟩
  obtain ⟨hsound, hleads, hQ⟩ := hx _ _ hrun
  cases inner with
  | ok a =>
    obtain ⟨rfl, rfl⟩ := Prod.mk.inj hrest
    exact ⟨hsound, hleads, hQ⟩
  | error fault =>
    obtain ⟨hsound', hleads', hQ'⟩ := hhandle fault t hsound _ _ hrest
    exact ⟨hsound', leads_isStep.trans hleads hleads', hQ'⟩

theorem of_ends {a : α} (hx : Ends x w a w) (hw : w.IsSound) (h : Q a w) : Keeps x w Q :=
  fun outcome t hrun => pure hw h outcome t ((hx _).1 hrun)

theorem of_breaks {fault : Fault} (hx : Breaks x w fault w) (hw : w.IsSound) : Keeps x w Q :=
  fun outcome t hrun => throw hw fault outcome t ((hx _).1 hrun)

theorem ite {p : Prop} [Decidable p] {y : Possibly (ComponentWorld C) α} (hx : p → Keeps x w Q)
    (hy : ¬ p → Keeps y w Q) : Keeps (if p then x else y) w Q := by
  split
  · exact hx ‹_›
  · exact hy ‹_›

theorem choose {ι : Type} {y : ι → Possibly (ComponentWorld C) α} (h : ∀ i, Keeps (y i) w Q) :
    Keeps (Possibly.choose y) w Q := by
  rintro outcome t ⟨i, hrun⟩
  exact h i outcome t hrun

end Keeps

namespace IsTame

variable {α β : Type} {code : Possibly (ComponentWorld C) Unit}

theorem anything (hcode : IsTame code) :
    IsTame (Possibly.anything code : Possibly (ComponentWorld C) α) := by
  rintro w hw outcome t ⟨inner, hrun⟩
  obtain ⟨hsound, hleads, -⟩ := hcode w hw inner t hrun
  exact ⟨hsound, hleads, fun _ _ => trivial⟩

theorem forM {f : β → Possibly (ComponentWorld C) PUnit} (hf : ∀ b, IsTame (f b)) (bs : List β) :
    IsTame (bs.forM f) := by
  intro w hw
  induction bs generalizing w with
  | nil => exact .pure hw trivial
  | cons b bs ih => exact (hf b w hw).bind fun _ t ht _ => ih t ht

theorem often (hcode : IsTame code) : IsTame (Possibly.often code) := by
  intro w hw
  refine .choose fun n => ?_
  induction n generalizing w with
  | zero => exact .pure hw trivial
  | succ n ih => exact (hcode w hw).bind fun _ t ht _ => ih t ht

end IsTame

theorem IsSound.of_same {w t : ComponentWorld C} (hw : w.IsSound) (htable : t.table = w.table)
    (hdefinitions : t.definitions = w.definitions) (hcache : t.cache = w.cache) : t.IsSound where
  nodup := htable ▸ hw.nodup
  tagged := htable ▸ hw.tagged
  definitions := hdefinitions ▸ hw.definitions
  cache := hcache ▸ hw.cache

omit [BEq C] in
theorem Leads.of_same {w t : ComponentWorld C} (htable : t.table = w.table)
    (hclears : t.clears = w.clears) : w.Leads t where
  clears := Nat.le_of_eq hclears.symm
  kept _ _ _ h := htable ▸ h

omit [BEq C] in
theorem numbered_ends {α : Type} (make : Nat → α) (w : ComponentWorld C) :
    Ends (numbered make) w (make w.made) { w with made := w.made + 1 } :=
  .bind (.read _ w) (.bind (.change _ w) (.pure _ _))

theorem numbered_keeps {α : Type} {w : ComponentWorld C} (hw : w.IsSound) {make : Nat → α}
    {Q : α → ComponentWorld C → Prop} (h : ∀ n t, Q (make n) t) : Keeps (numbered make) w Q := by
  refine .read_bind (.bind (P := fun _ _ => True) ?_ fun _ t ht _ => .pure ht (h _ t))
  exact .change (hw.of_same rfl rfl rfl) (.of_same rfl rfl) trivial

/-- A component comes in under its tag. -/
theorem register_keeps {w : ComponentWorld C} (hw : w.IsSound) {tag : Datum} {new : Component C}
    (htag : new.tag = tag) :
    Keeps (ComponentKind.register components tag new) w fun _ t =>
      t.table.lookup? tag = some new := by
  rw [ComponentKind.register]
  refine .read_bind ?_
  cases hadd : w.table.add (fun _ => true) tag new with
  | error fault => exact .throw hw fault
  | ok table =>
    obtain ⟨key, hkey, hnew, rfl⟩ := Registry.add_eq_ok (fun _ _ => rfl) hadd
    have hnotMem := Entries.lookup_eq_none_iff.1 hnew
    have hsound : { w with table := ⟨w.table.entries ++ [(key, new)]⟩ }.IsSound := by
      refine ⟨?_, fun {key' component} hmem => ?_, hw.definitions, hw.cache⟩
      · rw [List.map_append, List.nodup_append]
        refine ⟨hw.nodup, by simp, ?_⟩
        rintro k hk _ hk' rfl
        simp only [List.map_cons, List.map_nil, List.mem_singleton] at hk'
        exact hnotMem (hk' ▸ hk)
      · obtain hmem | hmem := List.mem_append.1 hmem
        · exact hw.tagged hmem
        · obtain ⟨rfl, rfl⟩ := Prod.mk.inj (List.mem_singleton.1 hmem)
          rw [htag, hkey]
    refine .change hsound ⟨Nat.le_refl _, fun _ _ _ => Registry.lookup?_append⟩ ?_
    exact Registry.lookup?_append_self hkey hnew

/-! ## Building and defining -/

section Building

variable [LawfulBEq C] {name : C → String} {code : Possibly (ComponentWorld C) Unit}
  {w : ComponentWorld C}

omit [LawfulBEq C] in
/-- A change of the remembered metadata that keeps it sound. -/
theorem modifyCache_keeps (hw : w.IsSound)
    {f : MetadataCache C (ForClass C) → MetadataCache C (ForClass C)}
    (hf : ∀ {c d}, (f w.cache).entries.lookup c = some d → d.target = c) :
    Keeps ((cell cache fun cache w => { w with cache }).modify f) w fun _ _ => True := by
  rw [cell_modify]
  exact .change ⟨hw.nodup, hw.tagged, hw.definitions, hf⟩ (.of_same rfl rfl) trivial

/-- An entry for the class that it is for keeps such entries. -/
theorem target_of_lookup_put {entries : List (C × ForClass C)} {d : ForClass C}
    (h : ∀ {c d}, entries.lookup c = some d → d.target = c) {c : C} {d' : ForClass C}
    (hfound : (Entries.put entries d.target d).lookup c = some d') : d'.target = c := by
  by_cases hc : c = d.target
  · subst hc
    rw [Entries.lookup_put_self] at hfound
    cases hfound
    rfl
  · rw [Entries.lookup_put_of_ne _ _ hc] at hfound
    exact h hfound

/-- The metadata of a class is for this class. -/
theorem metadataFor_keeps (hcode : IsTame code) (hw : w.IsSound) (c : C) :
    Keeps (metadataFor name code c) w fun md _ => md.target = c := by
  rw [metadataFor, MetadataCache.metadataFor]
  refine .read_bind ?_
  cases hfound : w.cache.entries.lookup c with
  | some md => exact .pure hw (hw.cache hfound)
  | none =>
    refine .bind (.tryCatch (hcode.anything w hw) fun fault t ht => ?_) ?_
    · exact .read_bind (.throw ht _)
    refine fun _ t ht _ => .bind (modifyCache_keeps ht ht.cache) fun _ t ht _ => ?_
    refine .bind (.bind (hcode.anything t ht) fun _ t ht _ =>
      numbered_keeps ht fun _ _ => rfl) fun md t ht (hmd : md.target = c) => ?_
    subst hmd
    exact .bind (modifyCache_keeps ht (target_of_lookup_put ht.cache)) fun _ t ht _ =>
      .pure ht rfl

/-- A definition is built for its class. -/
theorem build_keeps (hcode : IsTame code) (hw : w.IsSound) (c : C) :
    Keeps ((factory name code).build c) w fun d _ => d.target = c := by
  rw [DefinitionFactory.build]
  refine .read_bind ?_
  cases hfound : w.definitions.lookup c with
  | some d => exact .pure hw (hw.definitions hfound)
  | none =>
    refine .bind (metadataFor_keeps hcode hw c) fun md t ht (hmd : md.target = c) => ?_
    have hdefine : Keeps ((factory name code).define c md) t fun d _ => d.target = c :=
      numbered_keeps ht fun _ _ => hmd
    refine hdefine.bind fun d t ht (hd : d.target = c) => ?_
    subst hd
    refine .bind (P := fun _ _ => True) ?_ fun _ t ht _ => .pure ht rfl
    change Keeps ((cell definitions fun definitions w => { w with definitions }).modify _) t _
    rw [cell_modify]
    exact .change ⟨ht.nodup, ht.tagged, target_of_lookup_put ht.definitions, ht.cache⟩
      (.of_same rfl rfl) trivial

omit [LawfulBEq C] in
/-- The component of a tag is returned for its class. -/
theorem defineAt_same [ReflBEq C] {tag : Datum} {component : Component C}
    (hfound : w.table.lookup? tag = some component) :
    Ends ((kind name code).define components tag component.definition.target) w component w := by
  refine .bind (.read _ w) ?_
  rw [hfound]
  refine .bind (.pure _ w) ?_
  rw [if_pos (beq_self_eq_true _)]
  exact .pure _ w

/-- The tag of a component is refused to other classes. -/
theorem defineAt_other {tag : Datum} {component : Component C} {c : C}
    (hfound : w.table.lookup? tag = some component) (hc : component.definition.target ≠ c) :
    Breaks ((kind name code).define components tag c) w
      (.tagTaken tag.plain (name component.definition.target)) w := by
  refine Ends.bind_breaks (.read _ w) ?_
  rw [hfound]
  refine Ends.bind_breaks (.pure _ w) ?_
  rw [if_neg (by simpa using hc)]
  exact Ends.bind_breaks (.pure _ w) (.throw _ w)

/-- A component that is returned is for the class, and the tag is its. -/
theorem defineAt_keeps (hcode : IsTame code) (hw : w.IsSound) (tag : Datum) (c : C) :
    Keeps ((kind name code).define components tag c) w fun component t =>
      component.definition.target = c ∧ t.table.lookup? tag = some component := by
  cases hfound : w.table.lookup? tag with
  | some old =>
    by_cases hc : old.definition.target = c
    · subst hc
      exact .of_ends (defineAt_same hfound) hw ⟨rfl, hfound⟩
    · exact .of_breaks (defineAt_other hfound hc) hw
  | none =>
    rw [ComponentKind.define]
    refine .read_bind ?_
    rw [hfound]
    refine .bind (build_keeps hcode hw c) fun d t ht hd => ?_
    refine .bind (P := fun new _ => new.tag = tag ∧ new.definition.target = c)
      (numbered_keeps ht fun _ _ => ⟨rfl, hd⟩) fun new t ht hnew => ?_
    exact (register_keeps ht hnew.1).bind fun _ t ht hbound => .pure ht ⟨hnew.2, hbound⟩

/-- The tag under which a component is defined: the given one, or that of the class. -/
def tagFor (name : C → String) (w : ComponentWorld C) (tag? : Option Datum) (c : C) : Datum :=
  tag?.getD (.text (w.start ++ Text.smallText (name c)))

omit [LawfulBEq C] in
theorem define_iff {tag? : Option Datum} {c : C} {e : Except Fault (Component C) × ComponentWorld C} :
    define name code tag? c w e ↔
      (kind name code).define components (tagFor name w tag? c) c w e := by
  cases tag? with
  | some tag => exact (Ends.pure tag w).bind_iff
  | none =>
    refine Ends.bind_iff ?_
    exact .bind (.bind (.pure _ w) (.bind (.read _ w) (.pure _ w))) (.pure _ w)

theorem define_keeps (hcode : IsTame code) (hw : w.IsSound) (tag? : Option Datum) (c : C) :
    Keeps (define name code tag? c) w fun component t =>
      component.definition.target = c ∧ t.table.lookup? (tagFor name w tag? c) = some component :=
  fun outcome t hrun => defineAt_keeps hcode hw _ c outcome t (define_iff.1 hrun)

end Building

/-! ## Elements -/

section Elements

variable {name : C → String} {code : Possibly (ComponentWorld C) Unit} {w : ComponentWorld C}

theorem get_keeps (hw : w.IsSound) (tag : Datum) :
    Keeps (ComponentKind.get components tag) w fun _ _ => True := by
  refine .read_bind ?_
  cases w.table.get tag with
  | ok component => exact .pure hw trivial
  | error fault => exact .throw hw fault

theorem newElement_keeps (hcode : IsTame code) (hw : w.IsSound) (d : ForClass C) :
    Keeps (newElement code d) w fun element _ => element.definition = d := by
  refine .bind (hcode.anything w hw) fun _ t ht _ => .read_bind ?_
  refine .bind (P := fun _ _ => True) ?_ fun _ t ht _ => .pure ht rfl
  exact .change (ht.of_same rfl rfl rfl) (.of_same rfl rfl) trivial

theorem setAttribute_isTame (hcode : IsTame code) (element : ElementOf C) (name : String)
    (value : Datum) : IsTame (setAttribute code element name value) := by
  intro w hw
  refine .ite (fun _ => ?_) fun _ => .throw hw _
  refine .bind (P := fun _ _ => True) ?_ fun _ t ht _ => ?_
  · exact .change (hw.of_same rfl rfl rfl) (.of_same rfl rfl) trivial
  · exact .ite (fun _ => hcode.anything t ht) fun _ => .pure ht trivial

theorem create_keeps (hcode : IsTame code) (hw : w.IsSound) (attributes : List (String × Datum))
    (d : ForClass C) : Keeps (create code attributes d) w fun element _ => element.definition = d := by
  refine .bind (newElement_keeps hcode hw d) fun element t ht (hd : element.definition = d) => ?_
  have hset := IsTame.forM (fun p => setAttribute_isTame hcode element p.1 p.2) attributes
  exact .bind (hset t ht) fun _ t ht _ => .pure ht hd

theorem createElement_keeps (hcode : IsTame code) (hw : w.IsSound) (tag : Datum)
    (attributes : List (String × Datum)) :
    Keeps (createElement name code tag attributes) w fun _ _ => True := by
  refine (get_keeps hw tag).bind fun component t ht _ => .read_bind ?_
  exact (create_keeps hcode ht attributes _).mono fun _ _ _ => trivial

end Elements

/-! ## Tags -/

/-- The texts of the tags of the components, in the order of the table. -/
def tagTexts (w : ComponentWorld C) : List String :=
  w.table.values.map (·.tag.plain)

theorem tags_ends (name : C → String) (code : Possibly (ComponentWorld C) Unit)
    (w : ComponentWorld C) :
    Ends ((kind name code).tags components) w w.tagTexts.mergeSort w := by
  refine .bind (.read _ w) (.bind ?_ (.pure _ w))
  have hpure : w.table.values.mapM (kind name code).tag = pure w.tagTexts := List.mapM_pure
  rw [hpure]
  exact .pure _ w

/-! ## Runs -/

section Operations

variable [LawfulBEq C] {name : C → String} {code : Possibly (ComponentWorld C) Unit}
  {asked : Operation C → Prop}

theorem Operation.run_isTame (hcode : IsTame code) (op : Operation C) :
    IsTame (op.run name code) := by
  intro w hw
  cases op with
  | define tag? c => exact (define_keeps hcode hw tag? c).bind fun _ t ht _ => .pure ht trivial
  | setStart start => exact .change (hw.of_same rfl rfl rfl) (.of_same rfl rfl) trivial
  | clear =>
    refine .change ⟨List.nodup_nil, nofun, hw.definitions, hw.cache⟩ ⟨Nat.le_succ _, ?_⟩ trivial
    intro h
    exact absurd h (Nat.succ_ne_self _)
  | get tag => exact (get_keeps hw tag).bind fun _ t ht _ => .pure ht trivial
  | tags => exact .of_ends (.bind (tags_ends name code w) (.pure _ w)) hw trivial
  | createElement tag attributes =>
    exact (createElement_keeps hcode hw tag attributes).bind fun _ t ht _ => .pure ht trivial
  | build c => exact (build_keeps hcode hw c).bind fun _ t ht _ => .pure ht trivial
  | forget => exact .change ⟨hw.nodup, hw.tagged, hw.definitions, nofun⟩ (.of_same rfl rfl) trivial

theorem behave_isTame (depth : Nat) : IsTame (behave name asked depth) := by
  induction depth with
  | zero => exact fun w hw => .pure hw trivial
  | succ n ih => exact .often fun w hw => .choose fun op => op.1.run_isTame ih w hw

theorem IsSound.run {w t : ComponentWorld C} (hw : w.IsSound) {ops : List (Operation C)}
    (hrun : Runs (Operation.possibly name asked) ops w t) : t.IsSound ∧ w.Leads t := by
  induction hrun with
  | nil w => exact ⟨hw, leads_isStep.refl w⟩
  | cons h _ ih =>
    obtain ⟨depth, h⟩ := h
    obtain ⟨ht, hleads, -⟩ := Operation.run_isTame (behave_isTame depth) _ _ hw _ _ h
    obtain ⟨hu, hleads'⟩ := ih ht
    exact ⟨hu, leads_isStep.trans hleads hleads'⟩

end Operations

end ComponentWorld

end SceneBridge
