import SceneBridge.Proofs.ConstructorRuns
import SceneBridge.Proofs.ValueRoundTrip

/-!
# Instances seen by reflection

What reflection sees of an instance of a class, and of the classes that it inherits from. Where
looking at values changes nothing, the metadata of the class is what is extracted from this
subject, and a cache that makes the instance remembers it.
-/

namespace SceneBridge

open Act

/-! ## Runs -/

namespace Act

variable {α β : Type} {w : World}

theorem gives_mapM {f : α → Act β} (hf : ∀ a w, Gives (f a) w fun _ _ => True) (as : List α)
    (w : World) : Gives (as.mapM f) w fun _ _ => True := by
  induction as generalizing w with
  | nil => exact gives_pure trivial
  | cons a as ih =>
    rw [List.mapM_cons]
    exact (hf a w).bind fun _ w _ => (ih w).bind fun _ _ _ => gives_pure trivial

/-- A computation for each item of a list, none of which changes anything, and of which some
return nothing. -/
theorem runs_filterMapM {f : α → Act (Option β)} {g : α → Option β} {as : List α}
    (hf : ∀ a ∈ as, Runs (f a) w (g a) w) : Runs (as.filterMapM f) w (as.filterMap g) w := by
  induction as with
  | nil => exact runs_pure [] w
  | cons a as ih =>
    rw [List.filterMapM_cons]
    refine (hf a List.mem_cons_self).bind ?_
    have hrest := ih fun b hb => hf b (List.mem_cons_of_mem _ hb)
    cases hg : g a with
    | none => simpa [hg] using hrest
    | some b =>
      simp only [List.filterMap_cons, hg]
      exact hrest.bind (runs_pure _ w)

theorem exists_of_runs_bind {x : Act α} {f : α → Act β} {b : β} {w' : World}
    (h : Runs (x >>= f) w b w') : ∃ a w₁, Runs x w a w₁ ∧ Runs (f a) w₁ b w' := by
  unfold Runs at h
  rw [ExceptT.run_bind, StateT.run_bind] at h
  cases hx : x.run.run w with
  | mk outcome w₁ =>
    cases outcome with
    | error fault =>
      rw [hx] at h
      cases h
    | ok a =>
      rw [hx] at h
      exact ⟨a, w₁, hx, h⟩

end Act

namespace World

/-- A change that does nothing to the object at a place leaves it. -/
theorem entity_withChange_of_eq {w : World} {p q : Nat} {f : Entity → Entity}
    (h : f (w.entity p) = w.entity p) : (w.withChange q f).entity p = w.entity p := by
  by_cases hpq : p = q
  · subst hpq
    by_cases hp : p < w.store.size
    · rw [entity_withChange_self hp, h]
    · simp [entity, withChange, Nat.le_of_not_lt hp]
  · exact entity_withChange hpq

/-- The value is an object that holds the metadata of a class. -/
def Describes (w : World) (v : Value) (c : ClassId) (md : Metadata Value) : Prop :=
  ∃ place, v = .object place ∧ (w.entity place).body = .metadata c md

end World

/-! ## What is seen -/

/-- An instance of a class, with the kinds of values and what the places that classes name hold. -/
structure Probe where
  world : World
  place : Nat
  kind : Value → String
  held : String → Option Value

namespace Probe

variable (p : Probe)

def class_ : ClassId :=
  (p.world.entity p.place).class_

/-- The class and those that it inherits from. -/
def order : List ClassId :=
  (p.world.info p.class_).order

/-- The attributes that the classes have places for. -/
def slots : List String :=
  p.order.flatMap fun c => (p.world.info c).slots.getD []

/-- A member of a class as it is seen. -/
def memberView (c : ClassId) (name : String) (m : Member) : MemberView Value :=
  match m with
  | .accessor get set doc =>
    .accessor get.isSome set.isSome
      (if get.isSome then p.world.docOf c name m else doc.map Text.outdentText)
  | .routine r => .routine r.view (p.world.docOf c name m)
  | .shared .class_ _ => .shared (.callable (.method (.classRef p.class_) c name))
  | .shared .nobody _ => .shared (.callable (.routine c name))
  | .constant (.callable f) =>
    if f.isFree then .routine (p.world.viewOf f) none else .constant "function" (.callable f)
  | .constant v => .constant (p.kind v) v

/-- A class as it is seen. -/
def classView (c : ClassId) : ClassView Value :=
  let i := p.world.info c
  ⟨i.doc, i.members.map (fun e => (e.1, p.memberView c e.1 e.2)) ++
    (i.slots.getD []).map fun name => (name, .slot), i.annotations, i.table, i.notes⟩

/-- An attribute as it is seen. -/
def attributeView : Value → AttributeView
  | .callable f => .routine (p.world.viewOf f)
  | v => .value (p.kind v)

/-- The attributes of the instance that no class has a place for. -/
def own : List (String × Value) :=
  (p.world.entity p.place).attributes.filter fun e => !p.slots.contains e.1

/-- What is in the places that classes name. -/
def placed : List (String × Value) :=
  p.slots.eraseDups.filterMap fun name => (p.held name).map (name, ·)

/-- Attributes as they are seen. -/
def views (attributes : List (String × Value)) : List (String × AttributeView) :=
  attributes.map fun e => (e.1, p.attributeView e.2)

/-- What is reflected. -/
def subject : Subject Value :=
  ⟨p.order.map p.classView, p.views (p.own ++ p.placed)⟩

/-- Looking at values changes nothing, and shows what is said here. -/
structure IsSeen (calls : Calls) (table : Value) : Prop where
  constants : ∀ c ∈ p.order, ∀ name v, (name, .constant v) ∈ (p.world.info c).members →
    Runs (runtimeKind calls table v) p.world (p.kind v) p.world
  attributes : ∀ e ∈ p.own ++ p.placed,
    Runs (runtimeKind calls table e.2) p.world (p.kind e.2) p.world
  /-- A place of which nothing is said is empty. -/
  held : ∀ name ∈ p.slots, match p.held name with
    | some v => Runs (calls.member (.object p.place) name) p.world v p.world
    | none => ∃ fault : Fault, fault.kind = .attribute ∧
        (calls.member (.object p.place) name).run.run p.world = (.error fault, p.world)

variable {p} {calls : Calls} {table : Value}

/-! ## Extraction -/

theorem runs_memberView (hp : p.IsSeen calls table) {c : ClassId} (hc : c ∈ p.order)
    {e : String × Member} (he : e ∈ (p.world.info c).members) :
    Runs (Act.memberView calls table p.class_ c e.1 e.2) p.world (p.memberView c e.1 e.2) p.world := by
  obtain ⟨name, m⟩ := e
  refine (runs_get p.world).bind ?_
  cases m with
  | accessor get set doc => exact runs_pure _ _
  | routine r => exact runs_pure _ _
  | shared on r => cases on <;> exact runs_pure _ _
  | constant v =>
    have hkind := hp.constants c hc name v he
    cases v with
    | callable f =>
      simp only [memberView]
      cases f.isFree <;> exact runs_pure _ _
    | _ => exact hkind.bind (runs_pure _ _)

theorem runs_classView (hp : p.IsSeen calls table) {c : ClassId} (hc : c ∈ p.order) :
    Runs (Act.classView calls table p.class_ c) p.world (p.classView c) p.world := by
  refine (runs_classInfo c _).bind (Runs.bind (runs_mapM fun e he => ?_) (runs_pure _ _))
  exact (runs_memberView hp hc he).bind (runs_pure _ _)

/-- The place of a name holds what is said. -/
theorem runs_place (hp : p.IsSeen calls table) {name : String} (hname : name ∈ p.slots) :
    Runs (do
      if Entries.has p.own name then return none
      tryCatchThe Fault (do return some (name, ← calls.member (.object p.place) name)) fun f =>
        if f.kind = .attribute then return none else throw f) p.world
      ((p.held name).map (name, ·)) p.world := by
  have hown : Entries.has p.own name = false := by
    rw [← Bool.not_eq_true, Entries.has_iff]
    intro hmem
    obtain ⟨e, he, rfl⟩ := List.mem_map.1 hmem
    have hslot := (List.mem_filter.1 he).2
    simp [hname] at hslot
  rw [hown]
  have hheld := hp.held name hname
  cases hfound : p.held name with
  | some v =>
    rw [hfound] at hheld
    exact Runs.tryCatch (hheld.bind (runs_pure _ _))
  | none =>
    rw [hfound] at hheld
    obtain ⟨fault, hkind, hfails⟩ := hheld
    refine (run_tryCatch_error (run_bind_error hfails)).trans ?_
    simp only [hkind, if_true]
    exact runs_pure none p.world

theorem runs_instanceAttributes (hp : p.IsSeen calls table) :
    Runs (Act.instanceAttributes calls (.object p.place)) p.world (p.own ++ p.placed) p.world := by
  refine (runs_entity _ _).bind ((runs_get _).bind (Runs.bind (a := p.placed) ?_ (runs_pure _ _)))
  exact runs_filterMapM fun name hname => runs_place hp (List.mem_eraseDups.1 hname)

theorem runs_attributeView (hp : p.IsSeen calls table) {e : String × Value}
    (he : e ∈ p.own ++ p.placed) :
    Runs (match e.2 with
      | .callable f => do return (e.1, AttributeView.routine ((← get).viewOf f))
      | v => do return (e.1, .value (← runtimeKind calls table v))) p.world
      (e.1, p.attributeView e.2) p.world := by
  have hkind := hp.attributes e he
  obtain ⟨name, v⟩ := e
  cases v with
  | callable f => exact (runs_get _).bind (runs_pure _ _)
  | _ => exact hkind.bind (runs_pure _ _)

theorem runs_subjectOf (hp : p.IsSeen calls table) :
    Runs (Act.subjectOf calls table p.class_ (.object p.place)) p.world p.subject p.world := by
  refine (runs_classInfo _ _).bind ?_
  refine Runs.bind (runs_mapM fun c hc => runs_classView hp hc) ?_
  refine (runs_instanceAttributes hp).bind ?_
  refine Runs.bind (runs_mapM fun e he => ?_) (runs_pure _ _)
  exact runs_attributeView hp he

/-- How type texts are read. -/
def read (p : Probe) : String → TypeExpr :=
  TypeExpr.ofText p.world.settings.naiveUnions

theorem gives_newMetadata (c : ClassId) (md : Metadata Value) (w : World) :
    Gives (newMetadata c md) w fun place w' => (w'.entity place).body = .metadata c md := by
  have hinfos {α : Type} (l : LibraryClass) (attributes : α → List (String × Value))
      (infos : List (String × α)) (w : World) :
      Gives (newInfos l attributes infos) w fun _ _ => True := by
    refine (gives_mapM (fun info w => ?_) infos w).bind fun _ w _ => ?_
    · exact ⟨_, _, rfl, trivial⟩
    · exact ⟨_, _, rfl, trivial⟩
  refine (hinfos _ _ _ w).bind fun _ w _ => (hinfos _ _ _ w).bind fun _ w _ => ?_
  refine (hinfos _ _ _ w).bind fun _ w _ => (hinfos _ _ _ w).bind fun _ w _ => ?_
  refine (hinfos _ _ _ w).bind fun _ w _ => ?_
  refine (runs_keep _ w).gives ?_
  rw [World.entity_withObject_self]
  rfl

theorem exists_runs_typeReader (hread : p.world.settings.hasTable = true) :
    ∃ w, Runs typeReader p.world p.read w := by
  have hsettings : p.world.settings.typeReader = .ok p.read := if_pos hread
  refine ⟨{ p.world with memo := ⟨some (p.world.memo.tableFor p.world.settings.cacheLimit)⟩ },
    (runs_get _).bind ?_⟩
  rw [hsettings]
  rfl

/-- Where types can be read, the metadata is what is extracted from the subject. -/
theorem gives_extractMetadata (hp : p.IsSeen calls table) (hread : p.world.settings.hasTable = true)
    {md : Metadata Value} (hmd : p.subject.extract p.read = .ok md) :
    Gives (extractMetadata calls table p.class_ (.object p.place)) p.world
      fun place w => (w.entity place).body = .metadata p.class_ md := by
  obtain ⟨w, hreader⟩ := exists_runs_typeReader hread
  refine (runs_subjectOf hp).bind_gives (hreader.bind_gives ?_)
  rw [hmd]
  exact (runs_ofExcept md w).bind_gives (gives_newMetadata p.class_ md w)

/-- Metadata comes of a subject that can be read. -/
theorem extract_of_runs (hp : p.IsSeen calls table) {place : Nat} {w : World}
    (hrun : Runs (extractMetadata calls table p.class_ (.object p.place)) p.world place w) :
    p.world.settings.hasTable = true ∧ ∃ md, p.subject.extract p.read = .ok md ∧
      (w.entity place).body = .metadata p.class_ md := by
  have hrest := (runs_bind (runs_subjectOf hp)).symm.trans hrun
  cases hread : p.world.settings.hasTable with
  | false =>
    -- No table of readings of such a size can be made.
    have hfails : typeReader.run.run p.world = (.error .intTooLarge, p.world) := by
      refine (runs_bind (runs_get p.world)).trans ?_
      rw [Settings.typeReader, hread]
      rfl
    cases (run_bind_error hfails).symm.trans hrest
  | true =>
    refine ⟨rfl, ?_⟩
    cases hextract : p.subject.extract p.read with
    | error fault =>
      obtain ⟨w', hreader⟩ := exists_runs_typeReader hread
      rw [runs_bind hreader, hextract] at hrest
      cases hrest
    | ok md =>
      obtain ⟨place', w', hrun', hbody⟩ := gives_extractMetadata hp hread hextract
      obtain ⟨rfl, rfl⟩ := Runs.unique hrun hrun'
      exact ⟨md, rfl, hbody⟩

/-! ## Remembered metadata -/

/-- An operation on a cache makes this instance to see what a class is. The cache does not know the
class yet; it counts the instance. -/
structure IsMade (p : Probe) (i : Invocation) (table : Value) (w : World) : Prop where
  self : i.self = .object i.place
  unknown : ∃ cache, (w.entity i.place).body = .cache cache table ∧
    cache.entries.lookup p.class_ = none
  made : ∃ w₁, Runs (i.calls.call (.classRef p.class_) [] []) w (.object p.place) w₁ ∧
    Runs ((cacheOf i.place).modify fun s => { s with extractions := s.extractions + 1 }) w₁ ()
      p.world

variable {i : Invocation} {w : World}

/-- What is left to do with the instance: its metadata is extracted and remembered. -/
def remember (p : Probe) (i : Invocation) (table : Value) : Act Value := do
  let md ← extractMetadata i.calls table p.class_ (.object p.place)
  (cacheOf i.place).modify fun s => { s with entries := Entries.put s.entries p.class_ md }
  return .object md

/-- After the instance is made, its metadata is all that is left to find. -/
theorem IsMade.run_metadataOf (h : p.IsMade i table w) :
    (ReflectionOperation.metadataOf i p.class_).run.run w =
      (p.remember i table).run.run p.world := by
  obtain ⟨cache, hbody, hunknown⟩ := h.unknown
  obtain ⟨w₁, hmade, hcounted⟩ := h.made
  have hself : Runs (body i.self) w (.cache cache table) w := by
    rw [h.self, ← hbody]
    exact runs_body _ w
  have hcache : Runs (cacheOf i.place).get w cache w := by
    refine (runs_entity _ w).bind ?_
    rw [hbody]
    exact runs_pure _ w
  -- The cache is asked in vain, so the instance is made and counted.
  rw [ReflectionOperation.metadataOf, runs_bind hself]
  unfold MetadataCache.metadataFor
  rw [bind_assoc, runs_bind hcache, hunknown]
  simp only [bind_assoc]
  rw [runs_bind hmade.tryCatch, runs_bind hcounted]
  rfl

/-- What a cache remembers, or counts, is not in the metadata. -/
theorem gives_modify_cacheOf {f : MetadataCache ClassId Nat → MetadataCache ClassId Nat}
    {place q : Nat} {c : ClassId} {md : Metadata Value}
    (h : (w.entity place).body = .metadata c md) :
    Gives ((cacheOf q).modify f) w fun _ w' => (w'.entity place).body = .metadata c md := by
  have hget : Gives (cacheOf q).get w fun _ w' => w' = w :=
    (runs_entity q w).bind_gives (gives_pure rfl)
  refine hget.bind fun cache _ heq => ?_
  subst heq
  refine (runs_change q _ _).gives ?_
  rw [World.entity_withChange_of_eq, h]
  rw [h]

theorem IsMade.gives_metadataOf (h : p.IsMade i table w) (hp : p.IsSeen i.calls table)
    (hread : p.world.settings.hasTable = true) {md : Metadata Value}
    (hmd : p.subject.extract p.read = .ok md) :
    Gives (ReflectionOperation.metadataOf i p.class_) w fun v w' => w'.Describes v p.class_ md := by
  have hgives : Gives (p.remember i table) p.world fun v w' => w'.Describes v p.class_ md := by
    refine (gives_extractMetadata hp hread hmd).bind fun place w₁ hbody => ?_
    refine (gives_modify_cacheOf hbody).bind fun _ w₂ hbody => ?_
    exact gives_pure ⟨place, rfl, hbody⟩
  unfold Gives
  rw [h.run_metadataOf]
  exact hgives

/-- What is known of a class was extracted from the instance. -/
theorem IsMade.extract_of_gives (h : p.IsMade i table w) (hp : p.IsSeen i.calls table)
    {md : Metadata Value} (hrun : Gives (ReflectionOperation.metadataOf i p.class_) w
      fun v w' => w'.Describes v p.class_ md) :
    p.world.settings.hasTable = true ∧ p.subject.extract p.read = .ok md := by
  obtain ⟨v, w', hrun, place, rfl, hbody⟩ := hrun
  rw [h.run_metadataOf] at hrun
  obtain ⟨place', w₁, hextracted, hrest⟩ := exists_of_runs_bind hrun
  obtain ⟨hread, md', hmd', hbody'⟩ := extract_of_runs hp hextracted
  refine ⟨hread, ?_⟩
  -- Remembering the metadata leaves it as it is, so it is the one that was extracted.
  have hgives : Gives ((cacheOf i.place).modify fun s =>
      { s with entries := Entries.put s.entries p.class_ place' }) w₁ fun _ w' =>
      (w'.entity place').body = .metadata p.class_ md' := gives_modify_cacheOf hbody'
  obtain ⟨_, w₂, hremembered, hbody₂⟩ := hgives
  have hlast := (runs_bind hremembered).symm.trans hrest
  obtain ⟨hplace, rfl⟩ := (runs_pure _ w₂).unique hlast
  cases hplace
  rw [hbody₂] at hbody
  cases hbody
  exact hmd'

end Probe

/-! ## The usual table -/

/-- The usual table of constructors, by classes. -/
def usualTable : ConstructorTable ClassId Value :=
  ⟨usualConstructors.registry,
    ValueKind.all.map fun kind => (.library (.ofValueKind kind), kind.name)⟩

theorem World.HasValueTypes.isConstructor {w : World} (hw : w.HasValueTypes) (kind : ValueKind) :
    w.IsConstructor (.object kind.place) := by
  have hplace : kind.place < World.usualObjects.size := by cases kind <;> decide
  refine ⟨kind.place, rfl, Nat.lt_of_lt_of_le hplace hw.size, ?_, ?_⟩
  · rw [hw.constructors]
    rfl
  · rw [hw.constructors]
    exact ⟨some (.library (.ofValueKind kind)), rfl⟩

theorem World.HasValueTypes.hasTable {w : World} (hw : w.HasValueTypes) :
    w.HasTable Place.constructors usualTable where
  library := hw.library
  place := Nat.lt_of_lt_of_le (by decide) hw.size
  entity := hw.table
  constructors v hv := by
    obtain ⟨⟨name, v⟩, he, rfl⟩ := List.mem_map.1 hv
    obtain ⟨⟨kind, place⟩, hkind, he⟩ := List.mem_filterMap.1 he
    obtain ⟨i, hi, hplace⟩ := List.mem_mapIdx.1 hkind
    cases hplace
    have hplaces : ∀ i (h : i < ValueKind.all.length),
        ValueKind.all[i].place = Place.firstConstructor + i := by decide
    have hconstructor := hw.isConstructor ValueKind.all[i]
    rw [hplaces i hi] at hconstructor
    dsimp only at he
    split at he
    · cases he
      exact hconstructor
    · cases he

/-! ## Usual instances -/

namespace World

variable {w : World} {n place : Nat} {t : ConstructorTable ClassId Value}

/-- The kind of a value, where a table of constructors tells the names of numeric values. -/
def kindIn (w : World) (t : ConstructorTable ClassId Value) : Value → String
  | .null => "undefined"
  | .bool _ => "boolean"
  | .int _ | .float _ | .single _ => "number"
  | .text _ => "string"
  | .classRef _ | .callable _ => "function"
  | .object p =>
    let order := (w.info (w.entity p).class_).order
    (t.nameFor? order).getD (if (w.findMember? order "__call__").isSome then "function" else "object")
  | _ => "object"

theorem HasTable.runs_runtimeKind (hw : w.HasTable place t) (v : Value) :
    Runs (runtimeKind (.ofDepth (n + 1)) (.object place) v) w (w.kindIn t v) w := by
  cases v with
  | object p =>
    have hname : Runs (do
        (Calls.ofDepth (n + 1)).send (.object place) "name_for" [.classRef (← Act.entity p).class_]) w
        (((t.nameFor? (w.info (w.entity p).class_).order).map Value.text).getD .null) w :=
      (runs_entity p w).bind (hw.runs_nameFor _)
    refine hname.bind ?_
    rw [kindIn]
    cases t.nameFor? (w.info (w.entity p).class_).order with
    | some name => exact runs_pure _ w
    | none => exact ((runs_get w).bind (runs_pure _ w)).bind (runs_pure _ w)
  | _ => exact runs_pure _ w

end World

namespace Probe

/-- The instance at a place, seen with a table of constructors. -/
def ofTable (w : World) (place : Nat) (t : ConstructorTable ClassId Value) : Probe where
  world := w
  place := place
  kind := w.kindIn t
  held name := (w.entity place).attributes.lookup name

/-- An instance is seen where all attributes that its classes have places for were given to it, and
the classes have no other members under these names. -/
theorem isSeen_ofTable {w : World} {n place table : Nat} {t : ConstructorTable ClassId Value}
    (hw : w.HasTable table t) (hheld : ∀ name ∈ (ofTable w place t).slots,
      ((w.entity place).attributes.lookup name).isSome ∧
        w.findMember? (ofTable w place t).order name = none) :
    (ofTable w place t).IsSeen (.ofDepth (n + 1)) (.object table) := by
  constructor
  case constants => exact fun _ _ _ v _ => hw.runs_runtimeKind v
  case attributes => exact fun e _ => hw.runs_runtimeKind e.2
  case held =>
    intro name hname
    obtain ⟨hsome, hmember⟩ := hheld name hname
    obtain ⟨v, hv⟩ := Option.isSome_iff_exists.1 hsome
    have hfound : (ofTable w place t).held name = some v := hv
    rw [hfound]
    refine (runs_entity place w).bind ((runs_get w).bind ?_)
    have hclass : (w.info (w.entity place).class_).order = (ofTable w place t).order := rfl
    rw [hclass, hmember, hv]
    exact runs_pure v w

end Probe

end SceneBridge
