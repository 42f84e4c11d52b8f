import SceneBridge.Proofs.ClassIndex
import SceneBridge.Proofs.ObjectRuns
import SceneBridge.Script.Start

/-!
# Asking for the names of classes

A table of constructors is asked to define, to decorate classes, and to take constructors out, in
any order, while other code runs in between. Each request keeps the index of the classes, whether it
succeeds or fails. The name that the table gives for a class is then that of a constructor of the
nearest class that has any, unless a constructor of this class was taken out since the last one came
in: taking out one of them takes the name of the class, whichever of them it belongs to.
-/

namespace SceneBridge

open Act

/-! ## Classes as values -/

/-- A class, or nothing, as a value. -/
def Value.ofClass? (c : Option ClassId) : Value :=
  (c.map Value.classRef).getD .null

theorem Value.ofClass?_eq_classRef {c? : Option ClassId} {c : ClassId} :
    Value.ofClass? c? = .classRef c ↔ c? = some c := by
  cases c? with
  | none => exact ⟨nofun, nofun⟩
  | some d => exact ⟨fun h => by cases h; rfl, fun h => by cases h; rfl⟩

namespace ConstructorTable

/-- The table with the classes as values. -/
def ofClasses (t : ConstructorTable ClassId Value) : ConstructorTable Value Value :=
  ⟨t.registry, Entries.mapKeys .classRef t.byClass⟩

theorem classRef_beq (c d : ClassId) : (Value.classRef c == Value.classRef d) = (c == d) := rfl

theorem define_ofClasses (t : ConstructorTable ClassId Value) (clashes : Value → Bool)
    (name : Datum) (a : Value) (c : Option ClassId) :
    t.ofClasses.define clashes name a (c.map .classRef) = ofClasses <$> t.define clashes name a c := by
  simp only [define, ofClasses]
  cases t.registry.add clashes name a with
  | error fault => rfl
  | ok registry =>
    cases c with
    | none => rfl
    | some c =>
      simp only [Option.map_some, ok_bind, Entries.put_mapKeys classRef_beq]
      rfl

theorem remove_ofClasses (t : ConstructorTable ClassId Value) (name : Datum) (c : Option ClassId) :
    t.ofClasses.remove name (c.map .classRef) = ofClasses <$> t.remove name c := by
  simp only [remove, ofClasses]
  cases t.registry.remove name with
  | error fault => rfl
  | ok registry =>
    cases c with
    | none => rfl
    | some c =>
      simp only [Option.map_some, ok_bind, Entries.remove_mapKeys classRef_beq]
      rfl

theorem nameFor?_ofClasses (t : ConstructorTable ClassId Value) (order : List ClassId) :
    t.ofClasses.nameFor? (order.map .classRef) = t.nameFor? order := by
  simp only [nameFor?, ofClasses, List.findSome?_map, Function.comp_def,
    Entries.lookup_mapKeys classRef_beq]

end ConstructorTable

/-! ## Tables in the store -/

namespace World

/-- The class of the values that a constructor makes, if it says one. -/
def valueClass? (w : World) : Value → Option ClassId
  | .object q =>
    match (w.entity q).attributes.lookup "value_class" with
    | some (.classRef c) => some c
    | _ => none
  | _ => none

/-- The value is a constructor that says its class, or that it has none. -/
def IsConstructor (w : World) (v : Value) : Prop :=
  ∃ q, v = .object q ∧ q < w.store.size ∧ (w.entity q).class_ = .library .constructor ∧
    ∃ c, (w.entity q).attributes.lookup "value_class" = some (.ofClass? c)

/-- Old constructors stay as they are. -/
structure KeepsConstructors (w w' : World) : Prop where
  size : w.store.size ≤ w'.store.size
  entity : ∀ q < w.store.size, (w.entity q).class_ = .library .constructor →
    w'.entity q = w.entity q

section Constructors

variable {w w' : World} {p : Nat} {v : Value}

theorem IsConstructor.kept (hv : w.IsConstructor v) (h : w.KeepsConstructors w') :
    w'.IsConstructor v := by
  obtain ⟨q, rfl, hq, hclass, c, hc⟩ := hv
  have hsame := h.entity q hq hclass
  exact ⟨q, rfl, Nat.lt_of_lt_of_le hq h.size, by rw [hsame, hclass], c, by rw [hsame, hc]⟩

theorem IsConstructor.valueClass?_kept (hv : w.IsConstructor v) (h : w.KeepsConstructors w') :
    w'.valueClass? v = w.valueClass? v := by
  obtain ⟨q, rfl, hq, hclass, -⟩ := hv
  rw [valueClass?, valueClass?, h.entity q hq hclass]

theorem IsConstructor.isNull (hv : w.IsConstructor v) : v.isNull = false := by
  obtain ⟨q, rfl, -⟩ := hv
  rfl

theorem Extends.keepsConstructors (h : w.Extends w') : w.KeepsConstructors w' where
  size := h.size
  entity q hq _ := h.entity q hq

theorem keepsConstructors_withChange (hp : (w.entity p).class_ ≠ .library .constructor)
    (f : Entity → Entity) : w.KeepsConstructors (w.withChange p f) where
  size := by simp
  entity q _ hq := by
    refine entity_withChange ?_
    rintro rfl
    exact hp hq

theorem KeepsConstructors.trans {w'' : World} (h : w.KeepsConstructors w')
    (h' : w'.KeepsConstructors w'') : w.KeepsConstructors w'' where
  size := Nat.le_trans h.size h'.size
  entity q hq hclass := by
    have hsame := h.entity q hq hclass
    rw [h'.entity q (Nat.lt_of_lt_of_le hq h.size) (by rw [hsame, hclass]), hsame]

end Constructors

/-- The object at a place is a table with these constructors. -/
structure HasTable (w : World) (p : Nat) (t : ConstructorTable ClassId Value) : Prop where
  library : w.HasLibrary
  place : p < w.store.size
  entity : w.entity p = .ofClass (.library .constructorTable) (.constructors t.ofClasses)
  constructors : ∀ v ∈ t.registry.values, w.IsConstructor v

/-- Other code leaves the table at a place and all constructors as they are. -/
structure LeavesTable (w w' : World) (p : Nat) : Prop where
  library : w'.HasLibrary
  keeps : w.KeepsConstructors w'
  entity : w'.entity p = w.entity p

/-- The class of the constructor that the table at a place has under a name. -/
def classNamed? (w : World) (p : Nat) (name : Value) : Option ClassId :=
  match (w.entity p).body with
  | .constructors t => (t.registry.lookup? (w.see depthLimit name)).bind w.valueClass?
  | _ => none

section Tables

variable {w w' : World} {p : Nat} {t t' : ConstructorTable ClassId Value}

theorem HasTable.left (hw : w.HasTable p t) (h : w.LeavesTable w' p) : w'.HasTable p t where
  library := h.library
  place := Nat.lt_of_lt_of_le hw.place h.keeps.size
  entity := h.entity.trans hw.entity
  constructors v hv := (hw.constructors v hv).kept h.keeps

theorem HasTable.valueClass?_left (hw : w.HasTable p t) (h : w.KeepsConstructors w') :
    ∀ v ∈ t.registry.values, w'.valueClass? v = w.valueClass? v :=
  fun v hv => (hw.constructors v hv).valueClass?_kept h

theorem HasTable.clashes (hw : w.HasTable p t) :
    ∀ v ∈ t.registry.values, (!v.isNull) = true := by
  intro v hv
  rw [(hw.constructors v hv).isNull]
  rfl

theorem HasTable.leaves_withObject (hw : w.HasTable p t) (e : Entity) :
    w.LeavesTable (w.withObject e) p where
  library := hw.library.extends ((Extends.refl w).withObject e)
  keeps := ((Extends.refl w).withObject e).keepsConstructors
  entity := entity_withObject e hw.place

/-- The state with another table at the place. -/
def withTable (w : World) (p : Nat) (t : ConstructorTable ClassId Value) : World :=
  w.withChange p ({ · with body := .constructors t.ofClasses })

theorem HasTable.keeps_withTable (hw : w.HasTable p t) (t' : ConstructorTable ClassId Value) :
    w.KeepsConstructors (w.withTable p t') :=
  keepsConstructors_withChange (by rw [hw.entity]; nofun) _

theorem HasTable.withTable (hw : w.HasTable p t)
    (hconstructors : ∀ v ∈ t'.registry.values, w.IsConstructor v) :
    (w.withTable p t').HasTable p t' where
  library l := hw.library l
  place := by rw [World.withTable, size_withChange]; exact hw.place
  entity := by rw [World.withTable, entity_withChange_self hw.place, hw.entity]; rfl
  constructors v hv := (hconstructors v hv).kept (hw.keeps_withTable t')

/-- The object at a place is a table whose index is what the log makes of it. -/
def IsIndexed (w : World) (p : Nat) (log : List (ClassEvent ClassId)) : Prop :=
  ∃ t, w.HasTable p t ∧ t.IsIndexed w.valueClass? log

theorem IsIndexed.left {log : List (ClassEvent ClassId)} (h : w.IsIndexed p log)
    (hw : w.LeavesTable w' p) : w'.IsIndexed p log := by
  obtain ⟨t, ht, hindexed⟩ := h
  exact ⟨t, ht.left hw, hindexed.congr (ht.valueClass?_left hw.keeps)⟩

theorem HasTable.classNamed? (hw : w.HasTable p t) (name : Value) :
    w.classNamed? p name = (t.registry.lookup? (w.see depthLimit name)).bind w.valueClass? := by
  rw [World.classNamed?, hw.entity]
  rfl

/-- Calling a method of the table runs its operation. -/
theorem HasTable.run_callMember {n : Nat} {name : String} {owner : ClassId} {op : Operation}
    {params : List Param} {returns : Option Annotation} {doc : Option String} {args : List Value}
    {named : List (String × Value)} (hw : w.HasTable p t) (bound : Arguments)
    (hmember : LibraryClass.constructorTable.member? name =
      some (owner, .routine ⟨params, returns, .operation op, doc⟩))
    (hbound : ∀ callee, Arguments.bind callee params args named = .ok bound) :
    (do (Calls.ofDepth (n + 1)).call (← (Calls.ofDepth (n + 1)).member (.object p) name) args named
        : Act Value).run.run w =
      (op.run ⟨.ofDepth n, .object p, bound, fun _ => pure ()⟩).run.run w :=
  Act.run_callMember bound hw.library (by rw [hw.entity]; rfl) (by rw [hw.entity]; rfl) hmember hbound

/-- Another table with the same constructors or fewer is indexed if it is so by itself. -/
theorem HasTable.isIndexed_withTable {log : List (ClassEvent ClassId)} (hw : w.HasTable p t)
    (hconstructors : ∀ v ∈ t'.registry.values, w.IsConstructor v)
    (h : t'.IsIndexed w.valueClass? log) : (w.withTable p t').IsIndexed p log :=
  ⟨t', hw.withTable hconstructors, h.congr fun v hv =>
    (hconstructors v hv).valueClass?_kept (hw.keeps_withTable t')⟩

end Tables

end World

/-! ## Requests -/

/-- What is asked of a table of constructors. -/
inductive ConstructorRequest where
  | define (name factory layout : Value) (valueClass : Option ClassId)
  /-- A class is decorated as one of values. -/
  | decorate (name layout factory : Value) (c : ClassId)
  | unregister (name : Value)
  | clear

namespace ConstructorRequest

/-- Asks the table at a place. -/
def run (calls : Calls) (p : Nat) : ConstructorRequest → Act Value
  | define name factory layout valueClass => do
    calls.call (← calls.member (.object p) "define") [name, factory]
      [("layout", layout), ("value_class", .ofClass? valueClass)]
  | decorate name layout factory c => do
    let decorator ← calls.call (← calls.member (.object p) "value_type") [name]
      [("layout", layout), ("factory", factory)]
    calls.call decorator [.classRef c] []
  | unregister name => calls.send (.object p) "unregister" [name]
  | clear => calls.send (.object p) "clear" []

/-- What a request was for the classes, by its outcome. -/
def events (w : World) (p : Nat) : ConstructorRequest → Except Fault Value → List (ClassEvent ClassId)
  | _, .error _ => []
  | define _ _ _ valueClass, .ok _ => (valueClass.map ClassEvent.defined).toList
  | decorate _ _ _ c, .ok _ => [.defined c]
  | unregister name, .ok _ => ((w.classNamed? p name).map ClassEvent.removed).toList
  | clear, .ok _ => []

end ConstructorRequest

namespace ConstructorOperation

variable {n p : Nat} {w w' : World} {t t' : ConstructorTable ClassId Value}
  {name factory layout : Value} {c : Option ClassId}

theorem runs_constructorsOf (hw : w.HasTable p t) :
    Runs (constructorsOf p).get w t.ofClasses w := by
  refine (runs_entity p w).bind ?_
  rw [hw.entity]
  exact runs_pure _ w

theorem runs_isKey (c : Option ClassId) (w : World) : Runs (isKey (.ofClass? c)) w true w := by
  cases c <;> rfl

theorem runs_key (c : Option ClassId) (w : World) :
    Runs (key (.ofClass? c)) w (.ofClass? c) w := by
  cases c <;> rfl

/-- A new constructor. -/
def newConstructor (name factory layout : Value) (c : Option ClassId) : Entity :=
  { Entity.ofClass (.library .constructor) .plain with
    attributes := [("name", name), ("factory", factory), ("layout", layout),
      ("value_class", .ofClass? c)] }

theorem ends_defineAs {Q : Except Fault Value → World → Prop} (hw : w.HasTable p t)
    (hlayout : isLayoutName (w.see World.depthLimit layout) = false →
      Q (.error (.about .unknownLayout (w.see World.depthLimit layout))) w)
    (herror : ∀ fault, t.define (!·.isNull)
        ((w.withObject (newConstructor name factory layout c)).see World.depthLimit name)
        (.object w.store.size) c = .error fault →
      Q (.error fault) (w.withObject (newConstructor name factory layout c)))
    (hok : ∀ t', t.define (!·.isNull)
        ((w.withObject (newConstructor name factory layout c)).see World.depthLimit name)
        (.object w.store.size) c = .ok t' →
      Q (.ok (.object w.store.size))
        ((w.withObject (newConstructor name factory layout c)).withTable p t')) :
    Ends (defineAs p name factory layout (.ofClass? c)) w Q := by
  rw [defineAs]
  refine (runs_see layout w).bind_ends ?_
  have hkeep : Runs (newPlain .constructor [("name", name), ("factory", factory),
      ("layout", layout), ("value_class", .ofClass? c)]) w (.object w.store.size)
      (w.withObject (newConstructor name factory layout c)) := rfl
  have hw' := hw.left (hw.leaves_withObject (newConstructor name factory layout c))
  generalize hw₁ : w.withObject (newConstructor name factory layout c) = w₁ at *
  have hclass : (if (!(Value.ofClass? c).isNull && true) = true then some (Value.ofClass? c)
      else none) = c.map .classRef := by
    cases c <;> rfl
  cases hknown : isLayoutName (w.see World.depthLimit layout) with
  | false => exact hlayout hknown
  | true =>
    refine hkeep.bind_ends ((runs_isKey c w₁).bind_ends ?_)
    refine (runs_constructorsOf hw').bind_ends ((runs_see name w₁).bind_ends ?_)
    rw [hclass, ConstructorTable.define_ofClasses]
    cases hdefined : t.define (!·.isNull) (w₁.see World.depthLimit name) (.object w.store.size) c with
    | error fault => exact herror fault hdefined
    | ok t' =>
      refine (runs_ofExcept _ w₁).bind_ends ?_
      have hset : Runs ((constructorsOf p).set t'.ofClasses) w₁ () (w₁.withTable p t') := rfl
      refine hset.bind_ends ?_
      exact (runs_discard (runs_key c _)).bind_ends (hok t' hdefined)

variable {log : List (ClassEvent ClassId)}

theorem isConstructor_newConstructor (w : World) (name factory layout : Value) (c : Option ClassId) :
    (w.withObject (newConstructor name factory layout c)).IsConstructor (.object w.store.size) := by
  refine ⟨w.store.size, rfl, by simp, ?_, c, ?_⟩
  · rw [World.entity_withObject_self]
    rfl
  · rw [World.entity_withObject_self]
    rfl

theorem valueClass?_newConstructor (w : World) (name factory layout : Value) (c : Option ClassId) :
    (w.withObject (newConstructor name factory layout c)).valueClass? (.object w.store.size) = c := by
  rw [World.valueClass?, World.entity_withObject_self]
  cases c <;> rfl

theorem constructors_defined (hw : w.HasTable p t) (name factory layout : Value) {d : Datum}
    (hdefined : t.define (!·.isNull) d (.object w.store.size) c = .ok t') :
    ∀ v ∈ t'.registry.values, (w.withObject (newConstructor name factory layout c)).IsConstructor v := by
  intro v hv
  obtain hv | rfl := ConstructorTable.mem_values_of_define hw.clashes hdefined hv
  · exact (hw.constructors v hv).kept (hw.leaves_withObject _).keeps
  · exact isConstructor_newConstructor w name factory layout c

theorem define_isIndexed (hw : w.IsIndexed p log) (name factory layout : Value)
    (c : Option ClassId) :
    Ends (defineAs p name factory layout (.ofClass? c)) w fun r w' =>
      w'.IsIndexed p (log ++ ConstructorRequest.events w p (.define name factory layout c) r) := by
  have hkept := hw
  obtain ⟨t, ht, hindexed⟩ := hw
  have hleaves := ht.leaves_withObject (newConstructor name factory layout c)
  refine ends_defineAs ht ?_ ?_ ?_
  · intro
    simpa [ConstructorRequest.events] using hkept
  · intro fault _
    simpa [ConstructorRequest.events] using hkept.left hleaves
  · intro t' hdefined
    have ht₁ := ht.left hleaves
    refine ht₁.isIndexed_withTable (constructors_defined ht name factory layout hdefined) ?_
    exact (hindexed.congr (ht.valueClass?_left hleaves.keeps)).define ht₁.clashes
      (valueClass?_newConstructor w name factory layout c) hdefined

/-! ## Taking out -/

theorem runs_valueClass {v : Value} (hw : w.HasLibrary) (hv : w.IsConstructor v) :
    Runs ((Calls.ofDepth (n + 1)).member v "value_class") w (.ofClass? (w.valueClass? v)) w := by
  obtain ⟨q, rfl, -, hclass, c, hc⟩ := hv
  have hclass? : w.valueClass? (.object q) = c := by
    rw [World.valueClass?, hc]
    cases c <;> rfl
  rw [hclass?]
  exact runs_objectMember_attribute hw hclass hc (LibraryClass.constructor_member?_ne (by decide))

theorem runs_valueClassOf (v? : Option Value) (hw : w.HasLibrary)
    (hv : ∀ v ∈ v?, w.IsConstructor v) :
    Runs (valueClassOf (.ofDepth (n + 1)) v?) w ((v?.bind w.valueClass?).map .classRef) w := by
  cases v? with
  | none => exact runs_pure _ w
  | some v =>
    have hnull := (hv v rfl).isNull
    rw [valueClassOf]
    simp only [Option.getD_some, hnull, Bool.false_eq_true, if_false, Option.bind_some]
    refine (runs_valueClass hw (hv v rfl)).bind ?_
    cases w.valueClass? v <;> exact runs_pure _ w

theorem ends_remove {Q : Except Fault Value → World → Prop} (hw : w.HasTable p t) {i : Invocation}
    (hself : i.self = .object p) (hcalls : i.calls = .ofDepth (n + 1))
    (herror : ∀ fault, t.remove (w.see World.depthLimit (i.arg "name"))
        ((t.registry.lookup? (w.see World.depthLimit (i.arg "name"))).bind w.valueClass?) =
          .error fault → Q (.error fault) w)
    (hok : ∀ t', t.remove (w.see World.depthLimit (i.arg "name"))
        ((t.registry.lookup? (w.see World.depthLimit (i.arg "name"))).bind w.valueClass?) = .ok t' →
      Q (.ok .null) (w.withTable p t')) :
    Ends (run .remove i) w Q := by
  have hplace : i.place = p := by
    rw [Invocation.place, hself]
  simp only [run, hplace, hcalls]
  refine (runs_see _ w).bind_ends ((runs_constructorsOf hw).bind_ends ?_)
  generalize w.see World.depthLimit (i.arg "name") = name at herror hok ⊢
  have hclass := runs_valueClassOf (n := n) (t.registry.lookup? name) hw.library fun v hv =>
    hw.constructors v (Registry.mem_values_of_lookup? hv)
  refine hclass.bind_ends ((runs_constructorsOf hw).bind_ends ?_)
  rw [ConstructorTable.remove_ofClasses]
  cases hremoved : t.remove name ((t.registry.lookup? name).bind w.valueClass?) with
  | error fault => exact herror fault hremoved
  | ok t' => exact hok t' hremoved

theorem remove_isIndexed (hw : w.IsIndexed p log) {i : Invocation} (hself : i.self = .object p)
    (hcalls : i.calls = .ofDepth (n + 1)) :
    Ends (run .remove i) w fun r w' =>
      w'.IsIndexed p (log ++ ConstructorRequest.events w p (.unregister (i.arg "name")) r) := by
  have hkept := hw
  obtain ⟨t, ht, hindexed⟩ := hw
  refine ends_remove ht hself hcalls (fun fault _ => ?_) fun t' hremoved => ?_
  · simpa [ConstructorRequest.events] using hkept
  · simp only [ConstructorRequest.events, ht.classNamed?]
    exact ht.isIndexed_withTable
      (fun v hv => ht.constructors v (ConstructorTable.mem_values_of_remove hremoved hv))
      (hindexed.remove hremoved)

end ConstructorOperation

namespace ConstructorRequest

variable {n p : Nat} {w : World} {t t' : ConstructorTable ClassId Value}
  {log : List (ClassEvent ClassId)}

theorem run_define (hw : w.HasTable p t) (name factory layout : Value) (c : Option ClassId) :
    ((define name factory layout c).run (.ofDepth (n + 1)) p).run.run w =
      (ConstructorOperation.defineAs p name factory layout (.ofClass? c)).run.run w := by
  refine (hw.run_callMember ⟨[("name", name), ("factory", factory), ("layout", layout),
    ("value_class", .ofClass? c)], [], none, [], none⟩ rfl fun _ => rfl).trans ?_
  rfl

theorem run_unregister (hw : w.HasTable p t) (name : Value) :
    ((unregister name).run (.ofDepth (n + 1)) p).run.run w =
      (ConstructorOperation.run .remove ⟨.ofDepth n, .object p, ⟨[("name", name)], [], none, [], none⟩,
        fun _ => pure ()⟩).run.run w := by
  refine (hw.run_callMember ⟨[("name", name)], [], none, [], none⟩ rfl fun _ => rfl).trans ?_
  rfl

/-- A constructor comes in where the table takes it. -/
theorem gives_define (hw : w.HasTable p t) (name : String) (factory : Value) (l : Layout)
    (c : Option ClassId) (t' : ConstructorTable ClassId Value)
    (hdefined : t.define (!·.isNull) (.text name) (.object w.store.size) c = .ok t') :
    Gives ((define (.text name) factory (.text l.name) c).run (.ofDepth (n + 1)) p) w fun v w' =>
      v = .object w.store.size ∧ w'.HasTable p t' ∧ w'.valueClass? v = c ∧ w.KeepsConstructors w' := by
  have hlayout : ConstructorOperation.isLayoutName (w.see World.depthLimit (.text l.name)) = true := by
    rw [see_text]
    cases l <;> rfl
  have hnew := hw.left (hw.leaves_withObject
    (ConstructorOperation.newConstructor (.text name) factory (.text l.name) c))
  have hconstructors := ConstructorOperation.constructors_defined hw (.text name) factory
    (.text l.name) hdefined
  have hkeeps := hnew.keeps_withTable t'
  refine Runs.gives (a := .object w.store.size) ?_ ⟨rfl, hnew.withTable hconstructors, ?_,
    (hw.leaves_withObject _).keeps.trans hkeeps⟩
  · refine (run_define hw (.text name) factory (.text l.name) c).trans (runs_of_ends ?_)
    refine ConstructorOperation.ends_defineAs hw (fun hnot => ?_) (fun fault herror => ?_)
      fun t'' hdefined' => ?_
    · cases hlayout.symm.trans hnot
    · rw [see_text, hdefined] at herror
      cases herror
    · rw [see_text, hdefined] at hdefined'
      cases hdefined'
      exact ⟨rfl, rfl⟩
  · rw [(ConstructorOperation.isConstructor_newConstructor w (.text name) factory (.text l.name)
      c).valueClass?_kept hkeeps]
    exact ConstructorOperation.valueClass?_newConstructor ..

/-- The constructor of a name is taken out. -/
theorem gives_unregister (hw : w.HasTable p t) (name : String)
    (t' : ConstructorTable ClassId Value)
    (hremoved : t.remove (.text name) ((t.registry.lookup? (.text name)).bind w.valueClass?) = .ok t') :
    Gives ((unregister (.text name)).run (.ofDepth (n + 2)) p) w fun v w' =>
      v = .null ∧ w'.HasTable p t' ∧ w.KeepsConstructors w' := by
  refine Runs.gives (a := .null) ?_ ⟨rfl, hw.withTable fun v hv => hw.constructors v
    (ConstructorTable.mem_values_of_remove hremoved hv), hw.keeps_withTable t'⟩
  refine (run_unregister hw (.text name)).trans (runs_of_ends ?_)
  have hname : (Invocation.mk (.ofDepth (n + 1)) (.object p) ⟨[("name", .text name)], [], none, [], none⟩
      fun _ => pure ()).arg "name" = .text name := rfl
  refine ConstructorOperation.ends_remove (n := n) hw rfl rfl (fun fault herror => ?_)
    fun t'' hremoved' => ?_
  · rw [hname, see_text, hremoved] at herror
    cases herror
  · rw [hname, see_text, hremoved] at hremoved'
    cases hremoved'
    exact ⟨rfl, rfl⟩

theorem define_isIndexed (hw : w.IsIndexed p log) (name factory layout : Value)
    (c : Option ClassId) :
    Ends ((define name factory layout c).run (.ofDepth (n + 1)) p) w fun r w' =>
      w'.IsIndexed p (log ++ events w p (define name factory layout c) r) := by
  have ⟨t, ht, _⟩ := hw
  exact .of_eq (run_define ht name factory layout c)
    (ConstructorOperation.define_isIndexed hw name factory layout c)

theorem unregister_isIndexed (hw : w.IsIndexed p log) (name : Value) :
    Ends ((unregister name).run (.ofDepth (n + 2)) p) w fun r w' =>
      w'.IsIndexed p (log ++ events w p (unregister name) r) := by
  have ⟨t, ht, _⟩ := hw
  exact .of_eq (run_unregister ht name) (ConstructorOperation.remove_isIndexed hw rfl rfl)

theorem clear_isIndexed (hw : w.IsIndexed p log) :
    Ends (clear.run (.ofDepth (n + 1)) p) w fun r w' =>
      w'.IsIndexed p (log ++ events w p clear r) := by
  have ⟨t, ht, _⟩ := hw
  refine .of_eq (ht.run_callMember ⟨[], [], none, [], none⟩ rfl fun _ => rfl) ?_
  change (w.withTable p .empty).IsIndexed p _
  exact ht.isIndexed_withTable nofun .empty

/-! ## Decorating -/

theorem looks_truth (v : Value) : Looks (truth v) := by
  cases v with
  | object q =>
    refine (looks_of_runs (runs_entity q)).bind fun e => ?_
    cases e.body with
    | registry | constructors | cache => exact looks_pure _
    | _ =>
      refine (looks_of_runs (runs_see (.object q))).bind fun d => ?_
      cases d.truth? with
      | none => exact looks_fail _
      | some b => exact looks_pure b
  | _ => exact (looks_of_runs (runs_see _)).bind fun d => looks_pure _

theorem looks_classMember (c : ClassId) (name : String) : Looks (classMember c name) := by
  refine (looks_of_runs runs_get).bind fun w => ?_
  dsimp only
  split
  · exact looks_pure _
  · split
    · exact looks_pure _
    · exact looks_pure _
    · exact looks_pure _
    · exact looks_fail _

theorem defineClass_isIndexed (hw : w.IsIndexed p log) (name layout factory : Value) (c : ClassId) :
    Ends (ConstructorOperation.defineClass (.ofDepth (n + 1)) p name layout factory (.classRef c)) w
      fun r w' => w'.IsIndexed p (log ++ events w p (decorate name layout factory c) r) := by
  have herror (fault : Fault) :
      w.IsIndexed p (log ++ events w p (decorate name layout factory c) (.error fault)) := by
    simpa [events] using hw
  have hdefine (name' make : Value) : Ends (do
      let define ← (Calls.ofDepth (n + 1)).member (.object p) "define"
      discard ((Calls.ofDepth (n + 1)).call define [name', make]
        [("layout", layout), ("value_class", .classRef c)])
      return .classRef c) w
      fun r w' => w'.IsIndexed p (log ++ events w p (decorate name layout factory c) r) := by
    simp only [discard_bind]
    rw [← bind_assoc]
    refine (define_isIndexed hw name' make layout (some c)).bind ?_ ?_
    · exact fun fault w' hw' => hw'
    · exact fun v w' hw' => hw'
  have hnamed (make : Value) : Ends (do
      let name ← if ← truth name then pure name
        else (Calls.ofDepth (n + 1)).member (.classRef c) "__name__"
      let define ← (Calls.ofDepth (n + 1)).member (.object p) "define"
      discard ((Calls.ofDepth (n + 1)).call define [name, make]
        [("layout", layout), ("value_class", .classRef c)])
      return .classRef c) w
      fun r w' => w'.IsIndexed p (log ++ events w p (decorate name layout factory c) r) := by
    refine (looks_truth name).bind_ends herror fun b => ?_
    cases b with
    | true => exact hdefine name make
    | false =>
      exact (looks_classMember c "__name__").bind_ends herror fun name' => hdefine name' make
  refine (looks_truth factory).bind_ends herror fun b => ?_
  cases b with
  | false => exact hnamed (.classRef c)
  | true =>
    cases factory with
    | text s => exact (looks_classMember c s).bind_ends herror hnamed
    | _ => exact (looks_fail _).bind_ends herror hnamed

theorem decorate_isIndexed (hw : w.IsIndexed p log) (name layout factory : Value) (c : ClassId) :
    Ends ((decorate name layout factory c).run (.ofDepth (n + 2)) p) w fun r w' =>
      w'.IsIndexed p (log ++ events w p (decorate name layout factory c) r) := by
  have ⟨t, ht, _⟩ := hw
  have hdecorator : Runs (do
      (Calls.ofDepth (n + 2)).call (← (Calls.ofDepth (n + 2)).member (.object p) "value_type") [name]
        [("layout", layout), ("factory", factory)]) w
      (.callable (.constructing p name layout factory)) w := by
    refine (ht.run_callMember
      ⟨[("name", name), ("layout", layout), ("factory", factory)], [], none, [], none⟩ rfl
      fun _ => rfl).trans ?_
    rfl
  rw [run, ← bind_assoc]
  refine hdecorator.bind_ends ?_
  have hclass : Runs (singleArgument "decorator()" (.needed "cls") [.classRef c] []) w
      (.classRef c) w := rfl
  exact hclass.bind_ends (defineClass_isIndexed hw name layout factory c)

theorem run_isIndexed (hw : w.IsIndexed p log) (r : ConstructorRequest) :
    Ends (r.run (.ofDepth (n + 2)) p) w fun outcome w' =>
      w'.IsIndexed p (log ++ events w p r outcome) :=
  match r with
  | define name factory layout c => define_isIndexed hw name factory layout c
  | decorate name layout factory c => decorate_isIndexed hw name layout factory c
  | unregister name => unregister_isIndexed hw name
  | clear => clear_isIndexed hw

end ConstructorRequest

/-! ## Sessions -/

/-- A new table is made. -/
theorem runs_makeTable {n : Nat} {w : World} (hw : w.HasLibrary) :
    Runs ((Calls.ofDepth (n + 1)).make .constructorTable []) w (.object w.store.size)
      ((w.withObject (.ofClass (.library .constructorTable) (.constructors .empty))).withTable
        w.store.size .empty) := by
  refine (runs_classInfo _ w).bind ?_
  rw [hw]
  refine (runs_keep (.ofClass (.library .constructorTable) (.constructors .empty)) w).bind ?_
  refine Runs.bind (a := ()) ?_ (runs_pure _ _)
  refine (runs_classInfo _ _).bind ?_
  rw [World.info_withObject, hw]
  rfl

theorem hasTable_made {w : World} (hw : w.HasLibrary) :
    ((w.withObject (.ofClass (.library .constructorTable) (.constructors .empty))).withTable
      w.store.size .empty).HasTable w.store.size .empty := by
  have hnew : (w.withObject (.ofClass (.library .constructorTable)
      (.constructors .empty))).HasTable w.store.size .empty :=
    ⟨hw.extends ((World.Extends.refl w).withObject _), by simp, World.entity_withObject_self ..,
      nofun⟩
  exact hnew.withTable nofun

/-- A table is asked, again and again, and other code runs in between. The log says what this was
for the classes. -/
inductive ConstructorSession (n p : Nat) (w₀ : World) : List (ClassEvent ClassId) → World → Prop where
  | start : ConstructorSession n p w₀ [] w₀
  | aside {log : List (ClassEvent ClassId)} {w w' : World} (h : ConstructorSession n p w₀ log w)
      (hw : w.LeavesTable w' p) : ConstructorSession n p w₀ log w'
  | ask {log : List (ClassEvent ClassId)} {w w' : World} {outcome : Except Fault Value}
      (r : ConstructorRequest) (h : ConstructorSession n p w₀ log w)
      (hr : (r.run (.ofDepth (n + 2)) p).run.run w = (outcome, w')) :
      ConstructorSession n p w₀ (log ++ r.events w p outcome) w'

/-! ## Names of classes -/

namespace World

/-- A constructor of the class is registered in the table at a place. -/
def Serves (w : World) (p : Nat) (c : ClassId) : Prop :=
  ∃ t, (w.entity p).body = .constructors t ∧ ∃ v ∈ t.registry.values, w.valueClass? v = some c

/-- The answer is a name if `P` holds of a class of the order, and only then, and the table has
a constructor of the nearest such class under it. -/
structure NamesNearest (w : World) (calls : Calls) (p : Nat) (P : ClassId → Prop)
    (order : List ClassId) (answer : Value) : Prop where
  ne_null_iff : answer ≠ .null ↔ ∃ c ∈ order, P c
  lookup : answer ≠ .null → ∃ v c, IsNearest P order c ∧
    Runs (calls.send (.object p) "lookup" [answer]) w v w ∧
    Runs (calls.member v "value_class") w (.classRef c) w

variable {n p : Nat} {w : World} {t : ConstructorTable ClassId Value}

theorem HasTable.serves_iff (hw : w.HasTable p t) (c : ClassId) :
    w.Serves p c ↔ t.Serves w.valueClass? c := by
  constructor
  · rintro ⟨t', ht', v, hv, hc⟩
    rw [hw.entity] at ht'
    cases ht'
    exact ⟨v, hv, hc⟩
  · rintro ⟨v, hv, hc⟩
    exact ⟨t.ofClasses, by rw [hw.entity]; rfl, v, hv, hc⟩

theorem HasTable.runs_nameFor (hw : w.HasTable p t) (c : ClassId) :
    Runs ((Calls.ofDepth (n + 1)).send (.object p) "name_for" [.classRef c]) w
      (((t.nameFor? (w.info c).order).map Value.text).getD .null) w := by
  refine (hw.run_callMember ⟨[("klass", .classRef c)], [], none, [], none⟩ rfl fun _ => rfl).trans ?_
  rw [← ConstructorTable.nameFor?_ofClasses]
  exact (runs_classInfo c w).bind
    ((ConstructorOperation.runs_constructorsOf hw).bind (runs_pure _ w))

theorem HasTable.runs_lookup (hw : w.HasTable p t) {name : String} {v : Value}
    (hv : t.registry.lookup? (.text name) = some v) :
    Runs ((Calls.ofDepth (n + 1)).send (.object p) "lookup" [.text name]) w v w := by
  refine (hw.run_callMember ⟨[("name", .text name)], [], none, [], none⟩ rfl fun _ => rfl).trans ?_
  have hregistry : Runs (registryOf p).get w t.registry w := by
    refine (runs_entity p w).bind ?_
    rw [hw.entity]
    exact runs_pure _ w
  refine hregistry.bind ((runs_see (.text name) w).bind ?_)
  rw [see_text, hv]
  exact runs_pure v w

/-- What the table finds, its methods answer. -/
theorem HasTable.namesNearest_iff (hw : w.HasTable p t) {P : ClassId → Prop} {order : List ClassId}
    {name? : Option String}
    (hname : ∀ name ∈ name?, ∃ v, t.registry.lookup? (.text name) = some v) :
    w.NamesNearest (.ofDepth (n + 1)) p P order ((name?.map Value.text).getD .null) ↔
      t.FindsNearest w.valueClass? P order name? := by
  cases name? with
  | none =>
    have hnull : ((none : Option String).map Value.text).getD .null = .null := rfl
    rw [hnull]
    refine ⟨fun h => ⟨?_, nofun⟩, fun h => ⟨?_, fun hne => absurd rfl hne⟩⟩
    · simpa using h.ne_null_iff
    · simpa using h.isSome_iff
  | some name =>
    obtain ⟨v, hv⟩ := hname name rfl
    have htext : ((some name).map Value.text).getD .null = .text name := rfl
    have hlookup := hw.runs_lookup (n := n) hv
    have hclass := ConstructorOperation.runs_valueClass (n := n) hw.library
      (hw.constructors v (Registry.mem_values_of_lookup? hv))
    rw [htext]
    constructor
    · intro h
      refine ⟨by simpa using h.ne_null_iff, fun name' heq => ?_⟩
      cases heq
      obtain ⟨v', c, hc, hlookup', hclass'⟩ := h.lookup nofun
      obtain ⟨rfl, -⟩ := hlookup.unique hlookup'
      exact ⟨v, c, hv, Value.ofClass?_eq_classRef.1 (hclass.unique hclass').1, hc⟩
    · intro h
      refine ⟨by simpa using h.isSome_iff, fun _ => ?_⟩
      obtain ⟨v', c, hv', hc, hnearest⟩ := h.stands name rfl
      cases hv.symm.trans hv'
      rw [hc] at hclass
      exact ⟨v, c, hnearest, hlookup, hclass⟩

end World

theorem ConstructorSession.isIndexed {n p : Nat} {w₀ w : World} {log : List (ClassEvent ClassId)}
    (hw : w₀.IsIndexed p []) (h : ConstructorSession n p w₀ log w) : w.IsIndexed p log := by
  induction h with
  | start => exact hw
  | aside h hleaves ih => exact ih.left hleaves
  | ask r h hr ih =>
    have hkept := ConstructorRequest.run_isIndexed (n := n) ih r
    unfold Ends at hkept
    rwa [hr] at hkept

/-- After any requests, the name given for a class is that of a constructor of the nearest class
that has any, unless one of this class was taken out since the last one came in. -/
theorem ConstructorSession.names_nearest_unless_dropped {n p : Nat} {w₀ w₁ w : World}
    {log : List (ClassEvent ClassId)} (hlibrary : w₀.HasLibrary)
    (hmade : Runs ((Calls.ofDepth (n + 2)).make .constructorTable []) w₀ (.object p) w₁)
    (h : ConstructorSession n p w₁ log w) (c : ClassId) :
    ∃ answer, Runs ((Calls.ofDepth (n + 2)).send (.object p) "name_for" [.classRef c]) w answer w ∧
      w.NamesNearest (.ofDepth (n + 2)) p (fun d => w.Serves p d ∧ ¬ IsDropped log d)
        (w.info c).order answer ∧
      (w.NamesNearest (.ofDepth (n + 2)) p (w.Serves p) (w.info c).order answer ↔
        ∀ d, IsNearest (w.Serves p) (w.info c).order d → ¬ IsDropped log d) := by
  obtain ⟨hp, rfl⟩ := (runs_makeTable hlibrary).unique hmade
  cases hp
  obtain ⟨t, ht, hindexed⟩ := h.isIndexed ⟨.empty, hasTable_made hlibrary, .empty⟩
  have hfinds := hindexed.findsNearest (w.info c).order
  have hserves := funext fun d => propext (ht.serves_iff d)
  have hname : ∀ name ∈ t.nameFor? (w.info c).order,
      ∃ v, t.registry.lookup? (.text name) = some v := by
    intro name hname
    obtain ⟨v, -, hv, -⟩ := hfinds.stands name hname
    exact ⟨v, hv⟩
  refine ⟨_, ht.runs_nameFor c, ?_, ?_⟩
  · rw [ht.namesNearest_iff hname, hserves]
    exact hfinds
  · rw [ht.namesNearest_iff hname, hserves]
    exact hindexed.findsNearest_iff (w.info c).order

/-- A class with two constructors loses its name with one of them, though the other is there. -/
theorem ConstructorSession.vector_nameless_without_second :
    let vector := ClassId.library .vector3
    ∃ p w₁ w answer, Runs (Calls.usual.make .constructorTable []) (World.start []) (.object p) w₁ ∧
      ConstructorSession 998 p w₁ [.defined vector, .defined vector, .removed vector] w ∧
      Runs (Calls.usual.send (.object p) "name_for" [.classRef vector]) w answer w ∧
      answer = .null ∧ w.Serves p vector ∧
      ¬ w.NamesNearest Calls.usual p (w.Serves p) (w.info vector).order answer := by
  intro vector
  have hw₀ : (World.start []).HasLibrary := fun _ => rfl
  have hmade := runs_makeTable (n := 999) hw₀
  have ht₁ := hasTable_made hw₀
  generalize ((World.start []).withObject _).withTable _ _ = w₁ at hmade ht₁
  obtain ⟨_, w₂, hfirst, rfl, ht₂, hclass₂, -⟩ :=
    ConstructorRequest.gives_define (n := 999) ht₁ "first" .null .positional (some vector)
      ⟨⟨[("first", .object w₁.store.size)]⟩, [(vector, "first")]⟩ rfl
  obtain ⟨_, w₃, hsecond, rfl, ht₃, hclass₃, hkeeps₃⟩ :=
    ConstructorRequest.gives_define (n := 999) ht₂ "second" .null .positional (some vector)
      ⟨⟨[("first", .object w₁.store.size), ("second", .object w₂.store.size)]⟩,
        [(vector, "second")]⟩ rfl
  have hfound : (Registry.mk [("first", Value.object w₁.store.size),
      ("second", .object w₂.store.size)]).lookup? (.text "second") =
        some (.object w₂.store.size) := rfl
  obtain ⟨_, w, hremoved, rfl, ht, hkeeps⟩ :=
    ConstructorRequest.gives_unregister (n := 998) ht₃ "second"
      ⟨⟨[("first", .object w₁.store.size)]⟩, []⟩ (by
        rw [hfound, Option.bind_some, hclass₃]
        rfl)
  have hsession := ((ConstructorSession.start.ask _ hfirst).ask _ hsecond).ask _ hremoved
  have hevents : ConstructorRequest.events w₃ (World.start []).store.size
      (.unregister (.text "second")) (.ok .null) = [.removed vector] := by
    rw [ConstructorRequest.events, ht₃.classNamed?, see_text, hfound, Option.bind_some, hclass₃]
    rfl
  rw [hevents] at hsession
  change ConstructorSession _ _ _ [.defined vector, .defined vector, .removed vector] _ at hsession
  have hclass : w.valueClass? (.object w₁.store.size) = some vector := by
    have hconstructor := ht₂.constructors (.object w₁.store.size) (by simp [Registry.values])
    rw [hconstructor.valueClass?_kept (hkeeps₃.trans hkeeps), hclass₂]
  have hserves : w.Serves (World.start []).store.size vector :=
    (ht.serves_iff vector).2 ⟨.object w₁.store.size, by simp [Registry.values], hclass⟩
  have hnearest : IsNearest (w.Serves (World.start []).store.size) (w.info vector).order vector := by
    refine ⟨hserves, [], LibraryClass.vector3.info.order.tail, ?_, List.forall_mem_nil _⟩
    rw [ht.library]
    rfl
  have hdropped : IsDropped [.defined vector, .defined vector, .removed vector] vector :=
    ⟨[.defined vector, .defined vector], [], rfl, List.not_mem_nil⟩
  obtain ⟨answer, hanswer, hkept, hclaimed⟩ :=
    hsession.names_nearest_unless_dropped hw₀ hmade vector
  refine ⟨_, _, _, answer, hmade, hsession, hanswer, ?_, hserves,
    fun h => hclaimed.1 h vector hnearest hdropped⟩
  by_contra hne
  obtain ⟨c, -, ⟨t, hbody, v, hv, hc⟩, hkept⟩ := hkept.ne_null_iff.1 hne
  have hvector := (ht.serves_iff c).1 ⟨t, hbody, v, hv, hc⟩
  obtain ⟨v', hv', hc'⟩ := hvector
  simp only [Registry.values, List.map_cons, List.map_nil, List.mem_singleton] at hv'
  subst hv'
  cases hclass.symm.trans hc'
  exact hkept hdropped

end SceneBridge
