import SceneBridge.Proofs.Extension
import SceneBridge.Proofs.Probes

/-!
# Metadata of classes that inherit from others

The metadata of a class that inherits from another one and adds new names, as a cache gives it.
What it says of the other names is what the metadata of the other class says of them.
-/

namespace SceneBridge

open Act

theorem nodup_eraseDups {α : Type} [BEq α] [LawfulBEq α] (as : List α) : as.eraseDups.Nodup := by
  match as with
  | [] => exact List.nodup_nil
  | a :: as =>
    rw [List.eraseDups_cons, List.nodup_cons, List.mem_eraseDups]
    refine ⟨by simp, nodup_eraseDups _⟩
termination_by as.length
decreasing_by exact Nat.lt_succ_of_le (List.length_filter_le _ _)

namespace Probe

/-! ## Names and attributes -/

section Views

variable (p : Probe)

/-- The attributes that the class itself has places for. -/
def ownSlots : List String :=
  (p.world.info p.class_).slots.getD []

/-- Of these attributes, those that no class has a place for. -/
def addedOwn (added : List (String × Value)) : List (String × Value) :=
  added.filter fun e => !p.slots.contains e.1

/-- What is in the places that the class itself names. -/
def addedPlaced : List (String × Value) :=
  p.ownSlots.eraseDups.filterMap fun name => (p.held name).map (name, ·)

/-- What the class adds to its instance, as it is seen: the attributes `added` that no class has a
place for, and what is in the places that the class itself names. -/
def addedViews (added : List (String × Value)) : List (String × AttributeView) :=
  p.views (p.addedOwn added ++ p.addedPlaced)

theorem mem_names_of_slots {name : String} (hname : name ∈ p.slots) :
    name ∈ p.subject.names := by
  obtain ⟨c, hc, hslot⟩ := List.mem_flatMap.1 hname
  refine List.mem_append_left _ (List.mem_map.2 ⟨(name, .slot), ?_, rfl⟩)
  refine List.mem_flatMap.2 ⟨p.classView c, List.mem_map_of_mem hc, ?_⟩
  exact List.mem_append_right _ (List.mem_map_of_mem hslot)

/-- Every attribute that the instance was given is either in a place or one of its own. -/
theorem mem_names_of_attributes {e : String × Value}
    (he : e ∈ (p.world.entity p.place).attributes) : e.1 ∈ p.subject.names := by
  by_cases hslot : e.1 ∈ p.slots
  · exact p.mem_names_of_slots hslot
  · have hown : e ∈ p.own := List.mem_filter.2 ⟨he, by simpa using hslot⟩
    refine List.mem_append_right _ (List.mem_map.2 ⟨(e.1, p.attributeView e.2), ?_, rfl⟩)
    exact List.mem_map_of_mem (f := fun e => (e.1, p.attributeView e.2))
      (List.mem_append_left _ hown)

theorem map_fst_views (es : List (String × Value)) : (p.views es).map (·.1) = es.map (·.1) := by
  rw [views, List.map_map]
  rfl

theorem views_append (es fs : List (String × Value)) :
    p.views (es ++ fs) = p.views es ++ p.views fs :=
  List.map_append

/-- No attribute of an instance is seen twice. -/
theorem nodup_names (h : ((p.world.entity p.place).attributes.map (·.1)).Nodup) :
    ((p.views (p.own ++ p.placed)).map (·.1)).Nodup := by
  have hplaced (names : List String) :
      (names.filterMap fun name => (p.held name).map (name, ·)).map (·.1) =
        names.filter fun name => (p.held name).isSome := by
    induction names with
    | nil => rfl
    | cons name names ih => cases hheld : p.held name <;> simp [hheld, ih]
  rw [map_fst_views, List.map_append, List.nodup_append]
  refine ⟨h.sublist (List.filter_sublist.map _), ?_, ?_⟩
  · rw [placed, hplaced]
    exact (nodup_eraseDups p.slots).sublist List.filter_sublist
  · rintro name hown _ hslot rfl
    obtain ⟨e, he, rfl⟩ := List.mem_map.1 hown
    rw [placed, hplaced] at hslot
    have hslot := List.mem_eraseDups.1 (List.mem_filter.1 hslot).1
    simpa [hslot] using (List.mem_filter.1 he).2

theorem not_mem_slots_of_own {name : String} (h : name ∈ (p.views p.own).map (·.1)) :
    name ∉ p.slots := by
  rw [map_fst_views] at h
  obtain ⟨e, he, rfl⟩ := List.mem_map.1 h
  simpa using (List.mem_filter.1 he).2

theorem mem_slots_of_placed {name : String} (h : name ∈ (p.views p.placed).map (·.1)) :
    name ∈ p.slots := by
  rw [map_fst_views] at h
  obtain ⟨e, he, rfl⟩ := List.mem_map.1 h
  obtain ⟨name, hslot, hheld⟩ := List.mem_filterMap.1 he
  obtain ⟨v, -, rfl⟩ := Option.map_eq_some_iff.1 hheld
  exact List.mem_eraseDups.1 hslot

end Views

/-! ## Instances of classes that add to others -/

/-- The second instance is one of a class that inherits from the class of the first one and adds to
it: it has the attributes of the first one, in the same order and of the same kinds, and behind them
the attributes `added`. All names that the class speaks of, and those of the added attributes, are
new. -/
structure Extends (p q : Probe) (added : List (String × Value)) : Prop where
  info : q.world.info = p.world.info
  settings : q.world.settings = p.world.settings
  order : q.order = q.class_ :: p.order
  /-- Values that classes hold are of the same kinds, whenever they are looked at. -/
  constants : ∀ c ∈ p.order, ∀ name v, (name, .constant v) ∈ (p.world.info c).members →
    q.kind v = p.kind v
  /-- What the constructor inherited assigns comes before what the class adds. -/
  attributes : ∃ kept, (q.world.entity q.place).attributes = kept ++ added ∧
    q.views kept = p.views (p.world.entity p.place).attributes
  held : ∀ name ∈ p.slots, (q.held name).map q.attributeView = (p.held name).map p.attributeView
  nodup : ((q.world.entity q.place).attributes.map (·.1)).Nodup
  new : ∀ name ∈ (q.classView q.class_).names ++ added.map (·.1), name ∉ p.subject.names

namespace Extends

variable {p q : Probe} {added : List (String × Value)}

theorem slots (h : p.Extends q added) : q.slots = q.ownSlots ++ p.slots := by
  rw [Probe.slots, h.order, List.flatMap_cons]
  simp only [ownSlots, Probe.slots, h.info]

/-- The classes of the first instance are seen as before, but for the values of their members. -/
theorem classView_shape (h : p.Extends q added) {c : ClassId} (hc : c ∈ p.order) :
    (q.classView c).shape = (p.classView c).shape := by
  -- Documentation and signatures are looked up in the classes alone, and kinds agree.
  have hdoc : q.world.docOf = p.world.docOf := by
    funext c name m
    simp only [World.docOf, World.findMember?, h.info]
  have hview : q.world.viewOf = p.world.viewOf := by
    funext f
    simp only [World.viewOf, h.info]
  have hmember : ∀ e ∈ (p.world.info c).members,
      (q.memberView c e.1 e.2).shape = (p.memberView c e.1 e.2).shape := by
    rintro ⟨name, m⟩ he
    cases m with
    | accessor get set doc => simp only [memberView, hdoc]
    | routine r => simp only [memberView, hdoc]
    | shared on r => cases on <;> rfl
    | constant v =>
      have hkind := h.constants c hc name v he
      cases v with
      | callable f => simp only [memberView, hview]
      | _ => simp only [memberView, MemberView.shape, hkind]
  have hmembers : (p.world.info c).members.map (fun e => (e.1, (q.memberView c e.1 e.2).shape)) =
      (p.world.info c).members.map fun e => (e.1, (p.memberView c e.1 e.2).shape) :=
    List.map_congr_left fun e he => by rw [hmember e he]
  simp only [classView, ClassView.shape, h.info, List.map_append, List.map_map, Function.comp_def,
    hmembers]

theorem not_mem_ownSlots (h : p.Extends q added) {name : String} (hname : name ∈ p.subject.names) :
    name ∉ q.ownSlots := by
  intro hslot
  refine h.new name (List.mem_append_left _ ?_) hname
  simp only [ClassView.names, classView, List.map_append, List.mem_append]
  exact .inl (.inl (.inl (.inr (List.mem_map.2 ⟨_, List.mem_map_of_mem hslot, rfl⟩))))

theorem views_own (h : p.Extends q added) :
    q.views q.own = p.views p.own ++ q.views (q.addedOwn added) := by
  obtain ⟨kept, hattributes, hkept⟩ := h.attributes
  have hfilter (r : Probe) (es : List (String × Value)) (slots : List String) :
      r.views (es.filter fun e => !slots.contains e.1) =
        (r.views es).filter fun e => !slots.contains e.1 := by
    rw [views, views, List.filter_map]
    rfl
  -- The class names no place for an old attribute, so the same ones are left to the places.
  have hsame : ∀ e ∈ kept, (!q.slots.contains e.1) = !p.slots.contains e.1 := by
    intro e he
    have hname : e.1 ∈ p.subject.names := by
      have hmem : (e.1, q.attributeView e.2) ∈ q.views kept :=
        List.mem_map_of_mem (f := fun e => (e.1, q.attributeView e.2)) he
      rw [hkept] at hmem
      obtain ⟨e', he', heq⟩ := List.mem_map.1 hmem
      exact (Prod.mk.inj heq).1 ▸ p.mem_names_of_attributes he'
    have hnew := h.not_mem_ownSlots hname
    rw [h.slots]
    simp [hnew]
  rw [own, hattributes, List.filter_append, List.filter_congr hsame, views, List.map_append]
  refine congrArg (· ++ _) ?_
  rw [← views, hfilter, hkept, ← hfilter]
  rfl

theorem views_placed (h : p.Extends q added) :
    q.views q.placed = q.views q.addedPlaced ++ p.views p.placed := by
  have hviews (r : Probe) (slots : List String) :
      r.views (slots.filterMap fun name => (r.held name).map (name, ·)) =
        slots.filterMap fun name => ((r.held name).map r.attributeView).map (name, ·) := by
    rw [views, List.map_filterMap]
    refine List.filterMap_congr fun name _ => ?_
    cases r.held name <;> rfl
  have hapart : p.slots.removeAll q.ownSlots = p.slots := by
    refine List.filter_eq_self.2 fun name hname => ?_
    simpa using h.not_mem_ownSlots (p.mem_names_of_slots hname)
  rw [placed, h.slots, List.eraseDups_append, hapart, List.filterMap_append, views, List.map_append]
  refine congrArg (_ ++ ·) ?_
  rw [← views, hviews, placed, hviews]
  exact List.filterMap_congr fun name hname => by rw [h.held name (List.mem_eraseDups.1 hname)]

theorem adds (h : p.Extends q added) :
    p.subject.Adds q.subject (q.classView q.class_) (p.views p.own)
      (q.addedViews added) (p.views p.placed) := by
  constructor
  case classes =>
    refine ⟨p.order.map q.classView, ?_, ?_⟩
    · rw [subject, h.order, List.map_cons]
    · rw [subject, List.map_map, List.map_map]
      exact List.map_congr_left fun c hc => h.classView_shape hc
  case before => exact p.views_append _ _
  case after =>
    change q.views (q.own ++ q.placed) = _
    rw [views_append, h.views_own, h.views_placed, addedViews, views_append]
    simp only [List.append_assoc]
  case nodup => exact q.nodup_names h.nodup
  case new =>
    intro name hname hold
    obtain hname | hname := List.mem_append.1 hname
    · exact h.new name (List.mem_append_left _ hname) hold
    · obtain ⟨_, he, rfl⟩ := List.mem_map.1 hname
      obtain ⟨e, hadded, rfl⟩ := List.mem_map.1 he
      obtain hadded | hadded := List.mem_append.1 hadded
      · have hname := List.mem_map_of_mem (f := (·.1)) (List.mem_filter.1 hadded).1
        exact h.new e.1 (List.mem_append_right _ hname) hold
      · obtain ⟨name, hslot, hheld⟩ := List.mem_filterMap.1 hadded
        obtain ⟨v, -, rfl⟩ := Option.map_eq_some_iff.1 hheld
        exact h.not_mem_ownSlots hold (List.mem_eraseDups.1 hslot)

end Extends

/-! ## Metadata -/

/-- What is known of a class is known of one that inherits from it and adds new names, where all
that is read of these names can be and their documentation has new events only: each property, method, computed property, event and
static member is there under its name, as before. The properties keep their order, but the new
ones stand among them: behind those of the instance itself, and before those in places that the
classes name. -/
theorem metadata_kept {i : Invocation} {table : Value} {w v : World} {p q : Probe}
    {added : List (String × Value)} {md : Metadata Value}
    (hp : p.IsMade i table w) (hpSeen : p.IsSeen i.calls table)
    (hq : q.IsMade i table v) (hqSeen : q.IsSeen i.calls table) (hext : p.Extends q added)
    (hmd : Gives (ReflectionOperation.metadataOf i p.class_) w fun o w' =>
      w'.Describes o p.class_ md)
    (hnew : q.subject.DocumentsNew q.read (Entries.has md.events) (q.classView q.class_)
      (q.addedViews added)) :
    Gives (ReflectionOperation.metadataOf i q.class_) v fun o v' =>
      ∃ md', v'.Describes o q.class_ md' ∧ md.IsKeptIn md' ∧
        ∃ first more last, md.properties = first ++ last ∧
          md'.properties = first ++ (more ++ last) ∧ (∀ e ∈ more, e.1 ∉ p.subject.names) ∧
          (∀ e ∈ first, e.1 ∉ p.slots) ∧ ∀ e ∈ last, e.1 ∈ p.slots := by
  obtain ⟨hread, hextract⟩ := hp.extract_of_gives hpSeen hmd
  have hreader : q.read = p.read := by rw [Probe.read, hext.settings, ← Probe.read]
  rw [hreader] at hnew
  obtain ⟨md', hextract', hkept, first, more, last, hproperties, hproperties', hfirst, hmore,
    hlast⟩ := hext.adds.extract hextract hnew
  rw [← hreader] at hextract'
  rw [← hext.settings] at hread
  refine (hq.gives_metadataOf hqSeen hread hextract').mono fun o v' hdescribes => ?_
  refine ⟨md', hdescribes, hkept, first, more, last, hproperties, hproperties', fun e he => ?_,
    fun e he => ?_, fun e he => ?_⟩
  · exact hext.adds.new e.1 (List.mem_append_right _ (hmore e he))
  · exact p.not_mem_slots_of_own (hfirst e he)
  · exact p.mem_slots_of_placed (hlast e he)

/-! ## Labelled boxes -/

/-- Two classes: boxes, whose instances have a place for their size, and labelled boxes. -/
def boxWorld : World :=
  let setting (hasBases : Bool) (field : String) (value : Literal) : Option Routine :=
    some ⟨[], none, .construct hasBases none [([field], .literal value)], none⟩
  { World.start [] with
    customs := #[
      ⟨"Box", "", [.custom 0], none, [], [], [], [], some ["size"],
        setting false "size" (.int 1)⟩,
      ⟨"LabelledBox", "", [.custom 1, .custom 0], none, [], [], [], [], none,
        setting true "label" (.text "a")⟩] }

/-- The state with a new object, when the usual cache has counted it. -/
def boxWorldWith (c : ClassId) (attributes : List (String × Value)) : World :=
  (boxWorld.withObject { Entity.ofClass c .plain with attributes }).withChange Place.cache fun e =>
    { e with
      body := .cache { MetadataCache.empty with extractions := 1 } (.object Place.constructors)
      attributes := Entries.put e.attributes "extractions" (.int 1) }

theorem info_boxWorldWith (c : ClassId) (attributes : List (String × Value)) :
    (boxWorldWith c attributes).info = boxWorld.info := rfl

theorem settings_boxWorldWith (c : ClassId) (attributes : List (String × Value)) :
    (boxWorldWith c attributes).settings = boxWorld.settings := rfl

/-- An instance with these attributes. -/
def boxProbe (c : ClassId) (attributes : List (String × Value)) : Probe :=
  .ofTable (boxWorldWith c attributes) boxWorld.store.size usualTable

/-- The usual cache is asked. -/
def asking : Invocation :=
  ⟨.ofDepth 3, .object Place.cache, .none, fun _ => pure ()⟩

def box : Probe := boxProbe (.custom 0) [("size", .int 1)]

def labelledBox : Probe := boxProbe (.custom 1) [("size", .int 1), ("label", .text "a")]

theorem box_isMade : box.IsMade asking (.object Place.constructors) boxWorld where
  self := rfl
  unknown := ⟨.empty, rfl, rfl⟩
  made := ⟨boxWorld.withObject { Entity.ofClass (.custom 0) .plain with
    attributes := [("size", .int 1)] }, rfl, rfl⟩

theorem labelledBox_isMade : labelledBox.IsMade asking (.object Place.constructors) boxWorld where
  self := rfl
  unknown := ⟨.empty, rfl, rfl⟩
  made := ⟨boxWorld.withObject { Entity.ofClass (.custom 1) .plain with
    attributes := [("size", .int 1), ("label", .text "a")] }, rfl, rfl⟩

theorem boxWorld_hasValueTypes : boxWorld.HasValueTypes where
  library _ := rfl
  size := Nat.le_refl _
  converter := rfl
  table := rfl
  constructors kind := by cases kind <;> rfl

theorem hasTable_boxWorldWith (c : ClassId) (attributes : List (String × Value)) :
    (boxWorldWith c attributes).HasTable Place.constructors usualTable := by
  have htable := boxWorld_hasValueTypes.hasTable
  have hmade := htable.left
    (htable.leaves_withObject { Entity.ofClass c .plain with attributes })
  refine hmade.left ⟨hmade.library, World.keepsConstructors_withChange ?_ _, ?_⟩
  · rw [World.entity_withObject _ (by decide)]
    nofun
  · exact World.entity_withChange (by decide)

theorem isSeen_boxProbe {c : ClassId} {attributes : List (String × Value)}
    (h : ∀ name ∈ (boxProbe c attributes).slots,
      (((boxWorldWith c attributes).entity boxWorld.store.size).attributes.lookup name).isSome ∧
        (boxWorldWith c attributes).findMember? (boxProbe c attributes).order name = none) :
    (boxProbe c attributes).IsSeen asking.calls (.object Place.constructors) :=
  isSeen_ofTable (hasTable_boxWorldWith c attributes) h

theorem box_isSeen : box.IsSeen asking.calls (.object Place.constructors) := by
  refine isSeen_boxProbe fun name hname => ?_
  obtain rfl := List.mem_singleton.1 (show name ∈ ["size"] from hname)
  exact ⟨rfl, rfl⟩

theorem labelledBox_isSeen : labelledBox.IsSeen asking.calls (.object Place.constructors) := by
  refine isSeen_boxProbe fun name hname => ?_
  obtain rfl := List.mem_singleton.1 (show name ∈ ["size"] from hname)
  exact ⟨rfl, rfl⟩

theorem subject_box :
    box.subject = ⟨[⟨none, [("size", .slot)], [], [], []⟩], [("size", .value "number")]⟩ := rfl

theorem subject_labelledBox :
    labelledBox.subject = ⟨[⟨none, [], [], [], []⟩, ⟨none, [("size", .slot)], [], [], []⟩],
      [("label", .value "string"), ("size", .value "number")]⟩ := rfl

theorem box_extends : box.Extends labelledBox [("label", .text "a")] where
  info := (info_boxWorldWith ..).trans (info_boxWorldWith ..).symm
  settings := (settings_boxWorldWith ..).trans (settings_boxWorldWith ..).symm
  order := rfl
  constants c hc name v hv := by
    obtain rfl := List.mem_singleton.1 (show c ∈ [.custom 0] from hc)
    cases (show (name, Member.constant v) ∈ [] from hv)
  attributes := by
    have hlabelled : labelledBox.views [("size", .int 1)] = [("size", .value "number")] := rfl
    have hbox : box.views [("size", .int 1)] = [("size", .value "number")] := rfl
    exact ⟨[("size", .int 1)], rfl, hlabelled.trans hbox.symm⟩
  held name hname := by
    obtain rfl := List.mem_singleton.1 (show name ∈ ["size"] from hname)
    have hlabelled : (labelledBox.held "size").map labelledBox.attributeView =
      some (.value "number") := rfl
    have hbox : (box.held "size").map box.attributeView = some (.value "number") := rfl
    exact hlabelled.trans hbox.symm
  nodup := show ["size", "label"].Nodup by decide
  new name hname := by
    obtain rfl := List.mem_singleton.1 (show name ∈ ["label"] from hname)
    rw [subject_box]
    decide

/-- What is known of boxes. -/
def boxMetadata : Metadata Value :=
  { Metadata.empty with properties := [("size", ⟨"size", .scalar "number", ""⟩)] }

/-- What is known of labelled boxes. -/
def labelledBoxMetadata : Metadata Value :=
  { Metadata.empty with
    properties := [("label", ⟨"label", .scalar "string", ""⟩),
      ("size", ⟨"size", .scalar "number", ""⟩)] }

theorem isPrivate_fields : isPrivate "size" = false ∧ isPrivate "label" = false := by
  decide +kernel

theorem extract_box : box.subject.extract box.read = .ok boxMetadata := by
  have hmembers : box.subject.members = [("size", .slot)] := by
    simp [subject_box, Subject.members, firstOfEach, isPrivate_fields]
  rw [Subject.extract, hmembers, subject_box]
  simp only [List.foldlM_cons, List.foldlM_nil, Subject.addAttribute, isPrivate_fields]
  rfl

theorem extract_labelledBox :
    labelledBox.subject.extract labelledBox.read = .ok labelledBoxMetadata := by
  have hmembers : labelledBox.subject.members = [("size", .slot)] := by
    simp [subject_labelledBox, Subject.members, firstOfEach, isPrivate_fields]
  rw [Subject.extract, hmembers, subject_labelledBox]
  simp only [List.foldlM_cons, List.foldlM_nil, Subject.addAttribute, isPrivate_fields]
  rfl

theorem documentsNew_labelledBox :
    labelledBox.subject.DocumentsNew labelledBox.read (Entries.has boxMetadata.events)
      (labelledBox.classView labelledBox.class_) (labelledBox.addedViews [("label", .text "a")]) where
  doc := nofun
  members := nofun
  attributes e he _ := by
    obtain rfl := List.mem_singleton.1 (show e ∈ [("label", .value "string")] from he)
    refine ⟨⟨.empty, rfl, nofun⟩, fun key _ d hd => ?_⟩
    rw [Subject.tableEntry, subject_labelledBox] at hd
    cases hd

theorem box_isDescribed :
    Gives (ReflectionOperation.metadataOf asking box.class_) boxWorld fun o w' =>
      w'.Describes o box.class_ boxMetadata :=
  box_isMade.gives_metadataOf box_isSeen rfl extract_box

/-- Labelled boxes keep the size of boxes. -/
theorem size_kept :
    Gives (ReflectionOperation.metadataOf asking labelledBox.class_) boxWorld fun o w' =>
      ∃ md', w'.Describes o labelledBox.class_ md' ∧ boxMetadata.IsKeptIn md' ∧
        ∃ first more last, boxMetadata.properties = first ++ last ∧
          md'.properties = first ++ (more ++ last) ∧ (∀ e ∈ more, e.1 ∉ box.subject.names) ∧
          (∀ e ∈ first, e.1 ∉ box.slots) ∧ ∀ e ∈ last, e.1 ∈ box.slots :=
  metadata_kept box_isMade box_isSeen labelledBox_isMade labelledBox_isSeen box_extends
    box_isDescribed documentsNew_labelledBox

/-- The label stands before the size, which boxes have a place for. -/
theorem label_before_size :
    (box.IsMade asking (.object Place.constructors) boxWorld ∧
      labelledBox.IsMade asking (.object Place.constructors) boxWorld ∧
      box.Extends labelledBox [("label", .text "a")] ∧
      labelledBox.subject.DocumentsNew labelledBox.read (Entries.has boxMetadata.events)
        (labelledBox.classView labelledBox.class_)
        (labelledBox.addedViews [("label", .text "a")])) ∧
    Gives (ReflectionOperation.metadataOf asking box.class_) boxWorld (fun o w' =>
      w'.Describes o box.class_ boxMetadata) ∧
    Gives (ReflectionOperation.metadataOf asking labelledBox.class_) boxWorld (fun o w' =>
      w'.Describes o labelledBox.class_ labelledBoxMetadata) ∧
    ¬ boxMetadata.properties.map (·.1) <+: labelledBoxMetadata.properties.map (·.1) :=
  ⟨⟨box_isMade, labelledBox_isMade, box_extends, documentsNew_labelledBox⟩, box_isDescribed,
    labelledBox_isMade.gives_metadataOf labelledBox_isSeen rfl extract_labelledBox, by decide⟩

end Probe

end SceneBridge
