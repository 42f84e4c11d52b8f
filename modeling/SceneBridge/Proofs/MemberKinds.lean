import Mathlib.Data.List.Nodup
import SceneBridge.Adapter.Definition
import SceneBridge.Proofs.Failures
import SceneBridge.Reflect.Extract

/-!
# Kinds of members

Which names the metadata of a class has under each kind of member. The members of the classes are
sorted first, one member for each name, then the attributes of an instance. A name comes under two
kinds only if an attribute that is no routine hides a method of the classes: it is a property and a
method then.
-/

namespace SceneBridge

/-! ## Names by kind -/

/-- What a member is known as. -/
inductive MemberKind where
  | property
  | method
  | computed
  | static
deriving DecidableEq, Repr

namespace Metadata

variable {V : Type}

/-- The names of the members of a kind. -/
def names (md : Metadata V) : MemberKind → List String
  | .property => md.properties.map (·.1)
  | .method => md.methods.map (·.1)
  | .computed => md.computed.map (·.1)
  | .static => md.statics.map (·.1)

/-- No property is computed as well. -/
def IsSeparate (md : Metadata V) : Prop :=
  ∀ name info, md.properties.lookup name = some info → md.computed.lookup name = none

end Metadata

/-- What an attribute of an instance is known as. -/
def AttributeView.kind : AttributeView → MemberKind
  | .routine _ => .method
  | .value _ => .property

namespace Subject

variable {V : Type} {s : Subject V} {read : String → TypeExpr} {md md' : Metadata V}
  {name other : String} {kind : MemberKind}

/-! ## Members of classes -/

/-- What a member of the classes is known as. An attribute of the instance takes the place of a
slot and of a static member, but not of a computed property or of a method. -/
def memberKind? (s : Subject V) (name : String) : MemberView V → Option MemberKind
  | .accessor .. => some .computed
  | .routine .. => some .method
  | .slot => none
  | .shared _ | .constant _ _ => if Entries.has s.attributes name then none else some .static

theorem memberKind?_eq_method_iff {member : MemberView V} :
    s.memberKind? name member = some .method ↔ ∃ view doc, member = .routine view doc := by
  cases member with
  | routine view doc => simp [memberKind?]
  | accessor hasGetter hasSetter doc => simp [memberKind?]
  | slot => simp [memberKind?]
  | shared value | constant word value =>
    cases hhas : Entries.has s.attributes name <;> simp [memberKind?, hhas]

/-- A member comes under its kind, after the members that are there. -/
theorem addMember_names {member : MemberView V} (h : s.addMember read md name member = .ok md') :
    md'.names kind =
      md.names kind ++ if s.memberKind? name member = some kind then [name] else [] := by
  -- Two forms of members are static, in the same way.
  have hstatic {word : String} {value : V} {member : MemberView V}
      (hmember : s.memberKind? name member =
        if Entries.has s.attributes name then none else some .static)
      (h : addMember.addStatic s read md name word value = .ok md') :
      md'.names kind =
        md.names kind ++ if s.memberKind? name member = some kind then [name] else [] := by
    rw [hmember]
    unfold addMember.addStatic at h
    split at h
    · obtain rfl := Except.ok.inj h
      simp [*]
    · obtain ⟨b, -, hrest⟩ := bind_eq_ok_iff.1 h
      obtain ⟨description, -, hlast⟩ := bind_eq_ok_iff.1 hrest
      obtain rfl := Except.ok.inj hlast
      cases kind <;> simp [Metadata.names, *]
  cases member with
  | accessor hasGetter hasSetter doc =>
    obtain ⟨b, -, hrest⟩ := bind_eq_ok_iff.1 h
    obtain ⟨type, -, hlast⟩ := bind_eq_ok_iff.1 hrest
    obtain rfl := Except.ok.inj hlast
    cases kind <;> simp [Metadata.names, memberKind?]
  | routine view doc =>
    obtain ⟨b, -, hlast⟩ := bind_eq_ok_iff.1 h
    obtain rfl := Except.ok.inj hlast
    cases kind <;> simp [Metadata.names, memberKind?]
  | slot =>
    obtain rfl := Except.ok.inj h
    simp [memberKind?]
  | shared value => exact hstatic rfl h
  | constant word value => exact hstatic rfl h

theorem addMembers_names {members : List (String × MemberView V)}
    (h : members.foldlM (fun md (name, member) => s.addMember read md name member) md = .ok md') :
    name ∈ md'.names kind ↔ name ∈ md.names kind ∨
      ∃ member, (name, member) ∈ members ∧ s.memberKind? name member = some kind := by
  induction members generalizing md with
  | nil =>
    obtain rfl := Except.ok.inj h
    simp
  | cons first members ih =>
    obtain ⟨key, member⟩ := first
    rw [List.foldlM_cons] at h
    obtain ⟨md₁, hfirst, hrest⟩ := bind_eq_ok_iff.1 h
    rw [ih hrest, addMember_names hfirst, List.mem_append, or_assoc]
    refine or_congr_right ?_
    constructor
    · rintro (hname | ⟨found, hfound, hkind⟩)
      · split at hname
        · rename_i hkind
          obtain rfl := List.mem_singleton.1 hname
          exact ⟨member, List.mem_cons_self, hkind⟩
        · cases hname
      · exact ⟨found, List.mem_cons_of_mem _ hfound, hkind⟩
    · rintro ⟨found, hfound, hkind⟩
      obtain heq | hfound := List.mem_cons.1 hfound
      · obtain ⟨rfl, rfl⟩ := Prod.mk.inj heq
        exact .inl (by simp [hkind])
      · exact .inr ⟨found, hfound, hkind⟩

/-! ## Attributes of an instance -/

/-- An attribute comes under its kind, unless it is private or computed. -/
theorem addAttribute_names {view : AttributeView}
    (h : s.addAttribute read md name view = .ok md') :
    other ∈ md'.names kind ↔ other ∈ md.names kind ∨
      (other = name ∧ isPrivate name = false ∧ name ∉ md.names .computed ∧ view.kind = kind) := by
  have hcomputed : Entries.has md.computed name = true ↔ name ∈ md.names .computed :=
    Entries.has_iff
  unfold addAttribute at h
  split at h
  · rename_i hskipped
    obtain rfl := Except.ok.inj h
    rw [Bool.or_eq_true, hcomputed] at hskipped
    refine (or_iff_left ?_).symm
    rintro ⟨-, hpublic, hnew, -⟩
    obtain hprivate | hold := hskipped
    · exact Bool.false_ne_true (hpublic.symm.trans hprivate)
    · exact hnew hold
  · rename_i hkept
    rw [Bool.or_eq_true, hcomputed, not_or, Bool.not_eq_true] at hkept
    obtain ⟨b, -, hrest⟩ := bind_eq_ok_iff.1 h
    cases view with
    | routine view =>
      obtain rfl := Except.ok.inj hrest
      cases kind with
      | method =>
        refine (Entries.mem_keys_put ..).trans (or_congr_right ?_)
        exact ⟨fun hname => ⟨hname, hkept.1, hkept.2, rfl⟩, And.left⟩
      | property | computed | static => exact (or_iff_left fun h => nomatch h.2.2.2).symm
    | value word =>
      obtain ⟨type, -, hrest⟩ := bind_eq_ok_iff.1 hrest
      obtain ⟨description, -, hlast⟩ := bind_eq_ok_iff.1 hrest
      obtain rfl := Except.ok.inj hlast
      cases kind with
      | property =>
        refine (Entries.mem_keys_put ..).trans (or_congr_right ?_)
        exact ⟨fun hname => ⟨hname, hkept.1, hkept.2, rfl⟩, And.left⟩
      | method | computed | static => exact (or_iff_left fun h => nomatch h.2.2.2).symm

theorem addAttributes_names {attributes : List (String × AttributeView)}
    (h : attributes.foldlM (fun md (name, view) => s.addAttribute read md name view) md = .ok md') :
    name ∈ md'.names kind ↔ name ∈ md.names kind ∨
      (isPrivate name = false ∧ name ∉ md.names .computed ∧
        ∃ view, (name, view) ∈ attributes ∧ view.kind = kind) := by
  induction attributes generalizing md with
  | nil =>
    obtain rfl := Except.ok.inj h
    simp
  | cons first attributes ih =>
    obtain ⟨key, view⟩ := first
    rw [List.foldlM_cons] at h
    obtain ⟨md₁, hfirst, hrest⟩ := bind_eq_ok_iff.1 h
    -- No attribute is known as computed.
    have hcomputed : name ∈ md₁.names .computed ↔ name ∈ md.names .computed := by
      refine (addAttribute_names hfirst).trans (or_iff_left ?_)
      rintro ⟨-, -, -, hkind⟩
      cases view <;> cases hkind
    rw [ih hrest, hcomputed, addAttribute_names hfirst, or_assoc]
    refine or_congr_right ?_
    constructor
    · rintro (⟨rfl, hpublic, hnew, hkind⟩ | ⟨hpublic, hnew, found, hfound, hkind⟩)
      · exact ⟨hpublic, hnew, view, List.mem_cons_self, hkind⟩
      · exact ⟨hpublic, hnew, found, List.mem_cons_of_mem _ hfound, hkind⟩
    · rintro ⟨hpublic, hnew, found, hfound, hkind⟩
      obtain heq | hfound := List.mem_cons.1 hfound
      · obtain ⟨rfl, rfl⟩ := Prod.mk.inj heq
        exact .inl ⟨rfl, hpublic, hnew, hkind⟩
      · exact .inr ⟨hpublic, hnew, found, hfound, hkind⟩

/-! ## Extraction -/

/-- A member of the classes has the kind, and none of the instance need be there. -/
def ClassKind (s : Subject V) (name : String) (kind : MemberKind) : Prop :=
  ∃ member, (name, member) ∈ s.members ∧ s.memberKind? name member = some kind

/-- An attribute of the instance has the kind. -/
def InstanceKind (s : Subject V) (name : String) (kind : MemberKind) : Prop :=
  isPrivate name = false ∧ ¬ s.ClassKind name .computed ∧
    ∃ view, (name, view) ∈ s.attributes ∧ view.kind = kind

/-- The names of a kind are those of the members of the classes and of the attributes of the
instance that have this kind. -/
theorem extract_names (h : s.extract read = .ok md) :
    name ∈ md.names kind ↔ s.ClassKind name kind ∨ s.InstanceKind name kind := by
  obtain ⟨md₁, hmembers, hattributes⟩ := bind_eq_ok_iff.1 h
  have hclasses (kind : MemberKind) : name ∈ md₁.names kind ↔ s.ClassKind name kind := by
    refine (addMembers_names hmembers).trans (or_iff_right ?_)
    cases kind <;> exact List.not_mem_nil
  rw [addAttributes_names hattributes, hclasses, hclasses]
  rfl

/-! ## Names under two kinds -/

/-- Of the members of one name, the first one is kept. -/
theorem nodup_keys_firstOfEach {α : Type} (entries : List (String × α)) :
    ((firstOfEach entries).map (·.1)).Nodup := by
  induction entries with
  | nil => exact List.nodup_nil
  | cons e rest ih =>
    obtain ⟨key, a⟩ := e
    rw [firstOfEach, List.map_cons, List.nodup_cons]
    constructor
    · simp
    · exact ih.sublist (List.filter_sublist.map _)

/-- The classes have one member of a name. -/
theorem members_unique {member member' : MemberView V} (h : (name, member) ∈ s.members)
    (h' : (name, member') ∈ s.members) : member = member' :=
  congrArg Prod.snd (List.inj_on_of_nodup_map (nodup_keys_firstOfEach _) h h' rfl)

theorem ClassKind.unique {kind' : MemberKind} (h : s.ClassKind name kind)
    (h' : s.ClassKind name kind') : kind = kind' := by
  obtain ⟨member, hmember, hkind⟩ := h
  obtain ⟨member', hmember', hkind'⟩ := h'
  rw [members_unique hmember hmember'] at hkind
  exact Option.some.inj (hkind.symm.trans hkind')

/-- An instance has one attribute of a name. -/
theorem InstanceKind.unique (hattributes : (s.attributes.map (·.1)).Nodup) {kind' : MemberKind}
    (h : s.InstanceKind name kind) (h' : s.InstanceKind name kind') : kind = kind' := by
  obtain ⟨-, -, view, hview, rfl⟩ := h
  obtain ⟨-, -, view', hview', rfl⟩ := h'
  have hsame : (name, view) = (name, view') := List.inj_on_of_nodup_map hattributes hview hview' rfl
  exact congrArg AttributeView.kind (Prod.mk.inj hsame).2

/-- A method of the classes is hidden by an attribute of the instance that is no routine. -/
def HidesMethod (s : Subject V) (name : String) : Prop :=
  ∃ view doc word, (name, .routine view doc) ∈ s.members ∧ (name, .value word) ∈ s.attributes

/-- What the classes still show of a name that the instance has too is a method. -/
theorem ClassKind.eq_method {kind' : MemberKind} (h : s.ClassKind name kind)
    (h' : s.InstanceKind name kind') : kind = .method := by
  obtain ⟨member, hmember, hkind⟩ := h
  obtain ⟨-, hnew, held, hattribute, -⟩ := h'
  have hhas : Entries.has s.attributes name = true :=
    Entries.has_iff.2 (List.mem_map_of_mem hattribute)
  cases member with
  | accessor hasGetter hasSetter doc => exact absurd ⟨_, hmember, rfl⟩ hnew
  | routine view doc => exact (Option.some.inj hkind).symm
  | slot => cases hkind
  | shared value => simp [memberKind?, hhas] at hkind
  | constant word value => simp [memberKind?, hhas] at hkind

theorem isPrivate_of_mem_members {member : MemberView V} (h : (name, member) ∈ s.members) :
    isPrivate name = false := by
  have hsub {α : Type} (entries : List (String × α)) :
      (firstOfEach entries).Sublist entries := by
    induction entries with
    | nil => exact .slnil
    | cons e rest ih => exact (List.filter_sublist.trans ih).cons_cons e
  simpa using List.of_mem_filter ((hsub _).subset h)

/-- A method of the classes and a property of the instance have one name where the method is
hidden. -/
theorem hidesMethod_iff :
    s.HidesMethod name ↔ s.ClassKind name .method ∧ s.InstanceKind name .property := by
  constructor
  · rintro ⟨view, doc, word, hmember, hattribute⟩
    have hmethod : s.ClassKind name .method := ⟨_, hmember, rfl⟩
    refine ⟨hmethod, isPrivate_of_mem_members hmember, fun hcomputed => ?_, _, hattribute, rfl⟩
    cases hmethod.unique hcomputed
  · rintro ⟨⟨member, hmember, hkind⟩, -, -, held, hattribute, hproperty⟩
    obtain ⟨view, doc, rfl⟩ := memberKind?_eq_method_iff.1 hkind
    cases held with
    | routine view => cases hproperty
    | value word => exact ⟨view, doc, word, hmember, hattribute⟩

theorem InstanceKind.property_or_method (h : s.InstanceKind name kind) :
    kind = .property ∨ kind = .method := by
  obtain ⟨-, -, held, -, rfl⟩ := h
  cases held with
  | routine view => exact .inr rfl
  | value word => exact .inl rfl

/-- A name comes under two kinds exactly where a method is hidden, as a property and a method. -/
theorem two_kinds_iff (hattributes : (s.attributes.map (·.1)).Nodup)
    (h : s.extract read = .ok md) {kind' : MemberKind} (hne : kind ≠ kind') :
    name ∈ md.names kind ∧ name ∈ md.names kind' ↔
      (kind = .property ∧ kind' = .method ∨ kind = .method ∧ kind' = .property) ∧
        s.HidesMethod name := by
  rw [extract_names h, extract_names h, hidesMethod_iff]
  constructor
  · rintro ⟨hclass | hinstance, hclass' | hinstance'⟩
    · exact absurd (hclass.unique hclass') hne
    · obtain rfl := hclass.eq_method hinstance'
      obtain rfl := hinstance'.property_or_method.resolve_right hne.symm
      exact ⟨.inr ⟨rfl, rfl⟩, hclass, hinstance'⟩
    · obtain rfl := hclass'.eq_method hinstance
      obtain rfl := hinstance.property_or_method.resolve_right hne
      exact ⟨.inl ⟨rfl, rfl⟩, hclass', hinstance⟩
    · exact absurd (hinstance.unique hattributes hinstance') hne
  · rintro ⟨⟨rfl, rfl⟩ | ⟨rfl, rfl⟩, hmethod, hproperty⟩
    · exact ⟨.inr hproperty, .inl hmethod⟩
    · exact ⟨.inl hmethod, .inr hproperty⟩

/-- What is extracted from a class has no property that is computed as well. -/
theorem extract_isSeparate (h : s.extract read = .ok md) : md.IsSeparate := by
  intro name info hlookup
  have hproperty : name ∈ md.names .property := List.mem_map_of_mem (Entries.mem_of_lookup hlookup)
  refine List.lookup_eq_none_iff.2 fun entry hentry => ?_
  rw [bne_iff_ne]
  rintro rfl
  have hcomputed : entry.1 ∈ md.names .computed := List.mem_map_of_mem hentry
  rw [extract_names h] at hproperty hcomputed
  obtain hclass | hinstance := hcomputed
  · obtain hclass' | hinstance' := hproperty
    · cases hclass.unique hclass'
    · cases hclass.eq_method hinstance'
  · cases hinstance.property_or_method <;> contradiction

/-! ## Definitions of adapters -/

section Definitions

variable {reserved : List String} {eventPrefix className : String}

/-- The attributes of an adapter are the properties, stored or computed, that it does not hide. -/
theorem mem_attributes_iff :
    name ∈ (AdapterDefinition.ofMetadata reserved eventPrefix className md).attributes ↔
      (name ∈ md.names .property ∨ name ∈ md.names .computed) ∧ name ∉ reserved := by
  simp [AdapterDefinition.ofMetadata, Metadata.names, or_and_right]

theorem mem_methods_iff :
    name ∈ (AdapterDefinition.ofMetadata reserved eventPrefix className md).methods.map (·.1) ↔
      name ∈ md.names .method ∧ name ∉ reserved := by
  simp [AdapterDefinition.ofMetadata, Metadata.names]

theorem mem_statics_iff :
    name ∈ (AdapterDefinition.ofMetadata reserved eventPrefix className md).statics.map (·.1) ↔
      name ∈ md.names .static := by
  simp [AdapterDefinition.ofMetadata, Metadata.names]

end Definitions

/-- Of a class whose instances have different attributes, no name comes under two kinds of members,
but for a method that an attribute hides: it is a property and a method, and nothing else. So a
definition of adapters offers each name as an attribute, a method or a static member only, but for
the hidden methods that it does not shadow, which it offers as an attribute and a method. -/
theorem kinds_disjoint_unless_hidden (hattributes : (s.attributes.map (·.1)).Nodup)
    (h : s.extract read = .ok md) :
    (∀ name kind kind', kind ≠ kind' →
      (name ∈ md.names kind ∧ name ∈ md.names kind' ↔
        (kind = .property ∧ kind' = .method ∨ kind = .method ∧ kind' = .property) ∧
          s.HidesMethod name)) ∧
      ∀ reserved eventPrefix className name,
        let d := AdapterDefinition.ofMetadata reserved eventPrefix className md
        (name ∈ d.attributes ∧ name ∈ d.methods.map (·.1) ↔
          s.HidesMethod name ∧ name ∉ reserved) ∧
        (name ∈ d.statics.map (·.1) → name ∉ d.attributes ∧ name ∉ d.methods.map (·.1)) := by
  have htwo {name : String} {kind kind' : MemberKind} (hne : kind ≠ kind') :
      name ∈ md.names kind ∧ name ∈ md.names kind' ↔
        (kind = .property ∧ kind' = .method ∨ kind = .method ∧ kind' = .property) ∧
          s.HidesMethod name := two_kinds_iff hattributes h hne
  have hapart {name : String} {kind kind' : MemberKind} (hkind : kind ∈ [.computed, .static])
      (hne : kind ≠ kind') (hname : name ∈ md.names kind) : name ∉ md.names kind' := by
    intro hname'
    obtain ⟨⟨rfl, -⟩ | ⟨rfl, -⟩, -⟩ := (htwo hne).1 ⟨hname, hname'⟩
    · simp at hkind
    · simp at hkind
  refine ⟨fun name kind kind' hne => htwo hne, ?_⟩
  intro reserved eventPrefix className name d
  have hattribute : name ∈ d.attributes ↔ _ := mem_attributes_iff
  have hmethod : name ∈ d.methods.map (·.1) ↔ _ := mem_methods_iff
  have hstatic : name ∈ d.statics.map (·.1) ↔ _ := mem_statics_iff
  rw [hattribute, hmethod, hstatic]
  constructor
  · constructor
    · rintro ⟨⟨hproperty | hcomputed, hshown⟩, hmethod, -⟩
      · exact ⟨((htwo (by decide)).1 ⟨hproperty, hmethod⟩).2, hshown⟩
      · exact absurd hmethod (hapart (by decide) (by decide) hcomputed)
    · rintro ⟨hhidden, hshown⟩
      obtain ⟨hproperty, hmethod⟩ := (htwo (by decide)).2 ⟨.inl ⟨rfl, rfl⟩, hhidden⟩
      exact ⟨⟨.inl hproperty, hshown⟩, hmethod, hshown⟩
  · intro hname
    refine ⟨?_, fun hmethod => hapart (by decide) (by decide) hname hmethod.1⟩
    rintro ⟨hproperty | hcomputed, -⟩
    · exact hapart (by decide) (by decide) hname hproperty
    · exact hapart (by decide) (by decide) hname hcomputed

/-! ## A hidden method -/

/-- A class with a method and a static member, whose instances hide the method by a number. -/
def hidingSubject : Subject Unit where
  classes := [⟨none, [("run", .routine ⟨[], none⟩ none), ("limit", .constant "number" ())],
    [], [], []⟩]
  attributes := [("run", .value "number"), ("size", .value "number")]

/-- What is known of the class. -/
def hidingMetadata : Metadata Unit where
  properties := [("run", ⟨"run", .scalar "number", ""⟩), ("size", ⟨"size", .scalar "number", ""⟩)]
  methods := [("run", ⟨"run", [], [], .any⟩)]
  computed := []
  events := []
  statics := [("limit", ⟨"limit", "number", (), ""⟩)]

/-- The number is a property and an attribute, and the method is forwarded all the same. -/
theorem run_is_property_and_method :
    hidingSubject.extract TypeExpr.scalar = .ok hidingMetadata ∧
      ("run" ∈ hidingMetadata.names .property ∧ "run" ∈ hidingMetadata.names .method) ∧
      let d := AdapterDefinition.ofMetadata ["state"] "three-" "Hiding" hidingMetadata
      ("run" ∈ d.attributes ∧ "run" ∈ d.methods.map (·.1)) ∧ "limit" ∉ d.attributes := by
  have hpublic : isPrivate "run" = false ∧ isPrivate "limit" = false ∧ isPrivate "size" = false := by
    decide +kernel
  have hmembers : hidingSubject.members =
      [("run", .routine ⟨[], none⟩ none), ("limit", .constant "number" ())] := by
    simp [members, hidingSubject, firstOfEach, hpublic]
  have hextract : hidingSubject.extract TypeExpr.scalar = .ok hidingMetadata := by
    rw [extract, hmembers]
    simp only [hidingSubject, List.foldlM_cons, List.foldlM_nil, addAttribute, hpublic]
    rfl
  have hhidden : hidingSubject.HidesMethod "run" :=
    ⟨⟨[], none⟩, none, "number", by simp [hmembers], by simp [hidingSubject]⟩
  obtain ⟨hkinds, hdefinitions⟩ := kinds_disjoint_unless_hidden (by decide) hextract
  obtain ⟨hboth, -⟩ := hdefinitions ["state"] "three-" "Hiding" "run"
  obtain ⟨-, hlimit⟩ := hdefinitions ["state"] "three-" "Hiding" "limit"
  refine ⟨hextract, ?_, ?_, ?_⟩
  · exact (hkinds "run" .property .method (by decide)).2 ⟨.inl ⟨rfl, rfl⟩, hhidden⟩
  · exact hboth.2 ⟨hhidden, by decide⟩
  · exact (hlimit (by decide)).1

end Subject

end SceneBridge
