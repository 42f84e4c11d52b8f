import SceneBridge.Proofs.Inheritance
import SceneBridge.Proofs.ReadableDocs

/-!
# Declared types

The type of a property of a class: the one in the entry for it in the nearest table that has one, or
that of its documentation, or its annotation in the nearest class that annotates it, or the kind of
the value that an instance holds. What an entry says as documentation and is no text hides the
documentation of the attribute, though it says nothing itself, or makes the metadata fail, as a type
or a description does that cannot be written.
-/

namespace SceneBridge

open Act

/-! ## Layers -/

namespace Entries

variable {K V : Type} [BEq K] [LawfulBEq K] {key : K}

theorem lookup_putAll (entries : List (K × V)) {more : List (K × V)}
    (hmore : (more.map (·.1)).Nodup) :
    (putAll entries more).lookup key = (more.lookup key <|> entries.lookup key) := by
  induction more generalizing entries with
  | nil => rfl
  | cons e more ih =>
    obtain ⟨k, v⟩ := e
    obtain ⟨hnew, hrest⟩ := List.nodup_cons.1 hmore
    have hput : putAll entries ((k, v) :: more) = putAll (put entries k v) more := rfl
    rw [hput, ih _ hrest]
    by_cases hk : key = k
    · subst hk
      have hnone : more.lookup key = none := lookup_eq_none_iff.2 hnew
      simp [hnone, lookup_put_self]
    · have hne : (key == k) = false := beq_eq_false_iff_ne.2 hk
      simp [List.lookup_cons, hne, lookup_put_of_ne _ _ hk]

/-- Of layers put over one another, the uppermost that has a key decides. -/
theorem lookup_layers {layers : List (List (K × V))}
    (hlayers : ∀ layer ∈ layers, (layer.map (·.1)).Nodup) :
    (layers.reverse.foldl putAll []).lookup key = layers.findSome? (·.lookup key) := by
  induction layers with
  | nil => rfl
  | cons layer layers ih =>
    rw [List.reverse_cons, List.foldl_append, List.foldl_cons, List.foldl_nil,
      lookup_putAll _ (hlayers layer List.mem_cons_self),
      ih fun l hl => hlayers l (List.mem_cons_of_mem _ hl), List.findSome?_cons]
    cases layer.lookup key <;> rfl

end Entries

/-! ## Properties -/

namespace Subject

variable {V : Type} {s : Subject V} {read : String → TypeExpr} {md md' : Metadata V}
  {name other kind : String}

theorem addAttribute_lookup_of_ne {view : AttributeView} (hne : other ≠ name)
    (h : s.addAttribute read md name view = .ok md') :
    md'.properties.lookup other = md.properties.lookup other := by
  unfold addAttribute at h
  split at h
  · obtain rfl := Except.ok.inj h
    rfl
  · obtain ⟨b, -, hrest⟩ := bind_eq_ok_iff.1 h
    cases view with
    | routine view =>
      obtain rfl := Except.ok.inj hrest
      rfl
    | value kind =>
      obtain ⟨type, -, hrest⟩ := bind_eq_ok_iff.1 hrest
      obtain ⟨text, -, hlast⟩ := bind_eq_ok_iff.1 hrest
      obtain rfl := Except.ok.inj hlast
      exact Entries.lookup_put_of_ne _ _ hne

theorem addAttributes_lookup_of_notMem {attributes : List (String × AttributeView)}
    (hother : other ∉ attributes.map (·.1))
    (h : attributes.foldlM (fun md (name, view) => s.addAttribute read md name view) md = .ok md') :
    md'.properties.lookup other = md.properties.lookup other := by
  induction attributes generalizing md with
  | nil =>
    obtain rfl := Except.ok.inj h
    rfl
  | cons first attributes ih =>
    obtain ⟨name, view⟩ := first
    rw [List.foldlM_cons] at h
    obtain ⟨md₁, hfirst, hrest⟩ := bind_eq_ok_iff.1 h
    rw [List.map_cons, List.mem_cons, not_or] at hother
    rw [ih hother.2 hrest, addAttribute_lookup_of_ne hother.1 hfirst]

/-- The property that a block documents. -/
structure IsPropertyOf (s : Subject V) (read : String → TypeExpr) (name kind : String) (b : DocBlock)
    (info : PropertyInfo) : Prop where
  named : info.name = name
  typed : ∃ type, s.declaredType? read name b = .ok type ∧ info.type = type.getD (.scalar kind)
  described : s.description name b = .ok info.description

theorem addAttribute_lookup_self (hpublic : isPrivate name = false)
    (hnew : name ∉ md.names .computed) (h : s.addAttribute read md name (.value kind) = .ok md') :
    ∃ b info, s.block read name none = .ok b ∧ md'.properties.lookup name = some info ∧
      s.IsPropertyOf read name kind b info := by
  have hcomputed : Entries.has md.computed name = false := by
    rw [← Bool.not_eq_true, Entries.has_iff]
    exact hnew
  unfold addAttribute at h
  rw [hpublic, hcomputed] at h
  obtain ⟨b, hb, hrest⟩ := bind_eq_ok_iff.1 h
  obtain ⟨type, htype, hrest⟩ := bind_eq_ok_iff.1 hrest
  obtain ⟨text, htext, hlast⟩ := bind_eq_ok_iff.1 hrest
  obtain rfl := Except.ok.inj hlast
  exact ⟨b, _, hb, Entries.lookup_put_self .., rfl, ⟨type, htype, rfl⟩, htext⟩

/-- An attribute that is public, not computed and no routine is a property. -/
theorem extract_property (hnodup : (s.attributes.map (·.1)).Nodup) (h : s.extract read = .ok md)
    (hattribute : (name, .value kind) ∈ s.attributes) (hpublic : isPrivate name = false)
    (hnew : name ∉ md.names .computed) :
    ∃ b info, s.block read name none = .ok b ∧ md.properties.lookup name = some info ∧
      s.IsPropertyOf read name kind b info := by
  obtain ⟨md₀, -, hattributes⟩ := bind_eq_ok_iff.1 h
  obtain ⟨front, back, hsplit⟩ := List.append_of_mem hattribute
  rw [hsplit, List.map_append, List.map_cons] at hnodup
  have hback : name ∉ back.map (·.1) := (List.nodup_cons.1 (List.nodup_append.1 hnodup).2.1).1
  rw [hsplit, List.foldlM_append] at hattributes
  obtain ⟨md₁, hfront, hrest⟩ := bind_eq_ok_iff.1 hattributes
  rw [List.foldlM_cons] at hrest
  obtain ⟨md₂, hself, hlast⟩ := bind_eq_ok_iff.1 hrest
  -- What is computed is known before the attributes are.
  have hnew₁ : name ∉ md₁.names .computed := by
    intro hold
    exact hnew ((addAttributes_names hlast).2 (.inl ((addAttribute_computed hself).2 hold)))
  obtain ⟨b, info, hb, hfound, hinfo⟩ := addAttribute_lookup_self hpublic hnew₁ hself
  exact ⟨b, info, hb, (addAttributes_lookup_of_notMem hback hlast).trans hfound, hinfo⟩

end Subject

namespace Probe

/-! ## What is declared -/

section Declared

variable (p : Probe)

/-- What the nearest class that says anything of a name says of it. -/
def nearest? {α : Type} (said : ClassInfo → List (String × α)) (name : String) : Option α :=
  p.order.findSome? fun c => (said (p.world.info c)).lookup name

/-- What all classes say, the nearer ones put over the further ones. -/
def overlaid {α : Type} (said : ClassInfo → List (String × α)) : List (String × α) :=
  (p.order.map fun c => said (p.world.info c)).reverse.foldl Entries.putAll []

/-- The entry for a name in the nearest table that has one. A text is documentation. -/
def entry (name : String) : List (String × Datum) :=
  match p.nearest? (·.table) name with
  | some (.text t) => [("doc", .text t)]
  | some (.record es) => es
  | _ => []

/-- The entry for a name has this as documentation, and it is neither nothing nor a text. -/
def IsStray (name : String) (d : Datum) : Prop :=
  (p.entry name).lookup "doc" = some d ∧ d ≠ .null ∧ ∀ t, d ≠ .text t

/-- Of the names that are shown, the entries have for documentation what is nothing, a text, or
counts as no, and for a type or a description that is read what can be shown. -/
def CanBeRead : Prop :=
  ∀ name kind, p.subject.Shows name kind →
    (∀ d, p.IsStray name d → d.truth? = some false) ∧
      ∀ key ∈ kind.keys, ∀ d, (p.entry name).lookup key = some d → d.IsShowable

/-- The documentation of an attribute: the text of its entry, even an empty one, or the note behind
its assignment in the nearest class that has one. -/
def documentation? (name : String) : Option String :=
  match (p.entry name).lookup "doc" with
  | some (.text t) => some t
  | _ => p.nearest? (·.notes) name

/-- The type in the entry for a name, unless it counts as no. -/
def entryType? (name : String) : Option TypeExpr :=
  ((p.entry name).lookup "type").bind fun d =>
    if d.truth? = some false then none else some (p.read d.plain)

/-- The type of the first type tag. -/
def tagType? (documentation : String) : Option TypeExpr :=
  ((DocBlock.ofText p.read documentation).first? "type").map (·.type)

/-- The type of the annotation of a name in the nearest class that annotates it, if that is a class
or a text. -/
def annotatedType? (name : String) : Option TypeExpr :=
  (p.nearest? (·.annotations) name).bind (·.type? p.read)

/-- The declared type of an attribute with such documentation. -/
def declaredType? (name : String) (documentation : Option String) : Option TypeExpr :=
  p.entryType? name <|> documentation.bind p.tagType? <|> p.annotatedType? name

/-- The type of an attribute with such documentation that holds a value. -/
def typeOf (name : String) (v : Value) (documentation : Option String) : TypeExpr :=
  (p.declaredType? name documentation).getD (.scalar (p.kind v))

end Declared

variable {p : Probe} {name : String}

theorem tableEntry_subject (name : String) : p.subject.tableEntry name = p.entry name := by
  rw [Subject.tableEntry, entry, nearest?, subject, List.findSome?_map]
  rfl

theorem note?_subject (name : String) : p.subject.note? name = p.nearest? (·.notes) name := by
  rw [Subject.note?, nearest?, subject, List.findSome?_map]
  rfl

theorem annotation?_subject (name : String) :
    p.subject.annotation? name = p.nearest? (·.annotations) name := by
  rw [Subject.annotation?, nearest?, subject, List.findSome?_map]
  rfl

/-- Where the declared type can be read, it is the one by precedence. -/
theorem declaredType?_subject {b : DocBlock} {type : Option TypeExpr}
    (h : p.subject.declaredType? p.read name b = .ok type) :
    type = (p.entryType? name <|> (b.first? "type").map (·.type) <|> p.annotatedType? name) := by
  obtain ⟨text, htext, hlast⟩ := bind_eq_ok_iff.1 h
  have hentry : p.entryType? name = text.map p.read := by
    rw [Subject.entryText?, tableEntry_subject] at htext
    rw [entryType?]
    cases hfound : (p.entry name).lookup "type" with
    | none =>
      rw [hfound] at htext
      obtain rfl := Except.ok.inj htext
      rfl
    | some d =>
      rw [hfound] at htext
      dsimp only at htext
      split at htext
      · obtain rfl := Except.ok.inj htext
        simp [*]
      · split at htext
        · obtain rfl := Except.ok.inj htext
          simp [*]
        · cases htext
      · cases htext
  rw [hentry]
  cases text with
  | some text =>
    obtain rfl := Except.ok.inj hlast
    rfl
  | none =>
    cases hfirst : b.first? "type" with
    | some tag =>
      rw [hfirst] at hlast
      obtain rfl := Except.ok.inj hlast
      rfl
    | none =>
      rw [hfirst, annotation?_subject] at hlast
      obtain rfl := Except.ok.inj hlast
      rfl

/-! ## Documentation -/

theorem tableDoc_subject (name : String) :
    p.subject.tableDoc name = ((p.entry name).lookup "doc").getD .null := by
  rw [Subject.tableDoc, tableEntry_subject]

theorem isReadable_iff :
    p.subject.IsReadable name ↔ ∀ d, p.IsStray name d → d.truth? = some false := by
  unfold Subject.IsReadable IsStray
  rw [tableDoc_subject]
  constructor
  · rintro hreadable d ⟨hfound, -, htext⟩
    rw [hfound, Option.getD_some] at hreadable
    exact hreadable.resolve_left fun ⟨t, ht⟩ => htext t ht
  · intro hall
    cases hfound : (p.entry name).lookup "doc" with
    | none => exact .inr rfl
    | some d =>
      rw [Option.getD_some]
      by_cases hnull : d = .null
      · exact .inr (hnull ▸ rfl)
      by_cases htext : ∃ t, d = .text t
      · exact .inl htext
      · exact .inr (hall d ⟨hfound, hnull, not_exists.1 htext⟩)

theorem canShow_iff {kind : MemberKind} :
    p.subject.CanShow name kind ↔ (∀ d, p.IsStray name d → d.truth? = some false) ∧
      ∀ key ∈ kind.keys, ∀ d, (p.entry name).lookup key = some d → d.IsShowable := by
  rw [Subject.canShow_iff, isReadable_iff]
  simp only [Subject.IsWritten, tableEntry_subject]

/-- What is no text and yet is read says nothing. -/
theorem block_of_isStray {d : Datum} {own : Option String} {b : DocBlock} (hd : p.IsStray name d)
    (hb : p.subject.block p.read name own = .ok b) : b = .empty := by
  obtain ⟨hfound, hnull, htext⟩ := hd
  have hdoc : p.subject.tableDoc name = d := by rw [tableDoc_subject, hfound, Option.getD_some]
  rw [Subject.block_of_other (hdoc ▸ hnull) (hdoc ▸ htext)] at hb
  split at hb
  · exact (Except.ok.inj hb).symm
  · cases hb
  · cases hb

/-- Without such data, the type tag is that of the documentation. -/
theorem tagType_of_block {b : DocBlock} (hnone : ∀ d, ¬ p.IsStray name d)
    (hb : p.subject.block p.read name none = .ok b) :
    (b.first? "type").map (·.type) = (p.documentation? name).bind p.tagType? := by
  have hnote (hnull : p.subject.tableDoc name = .null) :
      (b.first? "type").map (·.type) = (p.nearest? (·.notes) name).bind p.tagType? := by
    rw [Subject.block_of_null hnull, note?_subject] at hb
    obtain rfl := Except.ok.inj hb
    cases p.nearest? (·.notes) name <;> rfl
  unfold documentation?
  cases hfound : (p.entry name).lookup "doc" with
  | none => exact hnote (by rw [tableDoc_subject, hfound, Option.getD_none])
  | some d =>
    have hdoc : p.subject.tableDoc name = d := by rw [tableDoc_subject, hfound, Option.getD_some]
    by_cases hnull : d = .null
    · subst hnull
      exact hnote hdoc
    by_cases htext : ∃ t, d = .text t
    · obtain ⟨t, rfl⟩ := htext
      rw [Subject.block_of_text hdoc] at hb
      obtain rfl := Except.ok.inj hb
      rfl
    · exact absurd ⟨hfound, hnull, not_exists.1 htext⟩ (hnone d)

/-! ## Metadata -/

/-- The instance has one attribute of a name, and what a class says of names it says once of
each. -/
structure IsKeyed (p : Probe) : Prop where
  attributes : ((p.world.entity p.place).attributes.map (·.1)).Nodup
  table : ∀ c ∈ p.order, ((p.world.info c).table.map (·.1)).Nodup
  notes : ∀ c ∈ p.order, ((p.world.info c).notes.map (·.1)).Nodup
  annotations : ∀ c ∈ p.order, ((p.world.info c).annotations.map (·.1)).Nodup

theorem lookup_overlaid {α : Type} {said : ClassInfo → List (String × α)}
    (hsaid : ∀ c ∈ p.order, ((said (p.world.info c)).map (·.1)).Nodup) (name : String) :
    (p.overlaid said).lookup name = p.nearest? said name := by
  rw [overlaid, Entries.lookup_layers, List.findSome?_map]
  · rfl
  · intro layer hlayer
    obtain ⟨c, hc, rfl⟩ := List.mem_map.1 hlayer
    exact hsaid c hc

/-- The type of a property is that of its attribute, stray data hiding its documentation. -/
theorem type_of_property {md : Metadata Value} {v : Value} (hkeyed : p.IsKeyed)
    (hmd : p.subject.extract p.read = .ok md) (hattribute : (name, v) ∈ p.own ++ p.placed)
    (hplain : ∀ f, v ≠ .callable f) (hpublic : isPrivate name = false)
    (hnew : ¬ p.subject.ClassKind name .computed) :
    ∃ info, md.properties.lookup name = some info ∧
      ((∀ d, ¬ p.IsStray name d) → info.type = p.typeOf name v (p.documentation? name)) ∧
      ∀ d, p.IsStray name d → info.type = p.typeOf name v none := by
  have hview : p.attributeView v = .value (p.kind v) := by
    cases v with
    | callable f => exact absurd rfl (hplain f)
    | _ => rfl
  have hseen : (name, .value (p.kind v)) ∈ p.subject.attributes :=
    hview ▸ List.mem_map_of_mem (f := fun e => (e.1, p.attributeView e.2)) hattribute
  have hcomputed : name ∉ md.names .computed := by
    rw [Subject.extract_names hmd]
    rintro (hclass | hinstance)
    · exact hnew hclass
    · cases hinstance.property_or_method <;> contradiction
  obtain ⟨b, info, hb, hfound, hinfo⟩ :=
    Subject.extract_property (p.nodup_names hkeyed.attributes) hmd hseen hpublic hcomputed
  obtain ⟨type, hdeclared, htype⟩ := hinfo.typed
  rw [declaredType?_subject hdeclared] at htype
  refine ⟨info, hfound, fun hnone => ?_, fun d hd => ?_⟩
  · rw [htype, tagType_of_block hnone hb]
    rfl
  · rw [htype, block_of_isStray hd hb]
    rfl

/-- The classes that come before those of another instance say nothing of a name, so that what is
declared for it is inherited. -/
theorem declaredType?_inherited {q : Probe} {nearer : List ClassId}
    (hinfo : q.world.info = p.world.info) (hsettings : q.world.settings = p.world.settings)
    (horder : q.order = nearer ++ p.order)
    (hsilent : ∀ c ∈ nearer, (p.world.info c).table.lookup name = none ∧
      (p.world.info c).notes.lookup name = none ∧ (p.world.info c).annotations.lookup name = none) :
    q.declaredType? name (q.documentation? name) =
      p.declaredType? name (p.documentation? name) := by
  have hnearest {α : Type} (said : ClassInfo → List (String × α))
      (hsaid : ∀ c ∈ nearer, (said (p.world.info c)).lookup name = none) :
      q.nearest? said name = p.nearest? said name := by
    have hnone : nearer.findSome? (fun c => (said (p.world.info c)).lookup name) = none :=
      List.findSome?_eq_none_iff.2 hsaid
    rw [nearest?, horder, hinfo, List.findSome?_append, hnone]
    rfl
  have hentry : q.entry name = p.entry name := by
    rw [entry, entry, hnearest (·.table) fun c hc => (hsilent c hc).1]
  have hread : q.read = p.read := by rw [Probe.read, Probe.read, hsettings]
  have htag : q.tagType? = p.tagType? := by
    funext documentation
    rw [tagType?, tagType?, hread]
  rw [declaredType?, declaredType?, entryType?, entryType?, annotatedType?, annotatedType?,
    documentation?, documentation?, hentry, hread, htag,
    hnearest (·.notes) fun c hc => (hsilent c hc).2.1,
    hnearest (·.annotations) fun c hc => (hsilent c hc).2.2]

variable {i : Invocation} {table : Value} {w : World}

/-- The metadata is found where it can be extracted. -/
theorem IsMade.exists_runs_iff (h : p.IsMade i table w) (hp : p.IsSeen i.calls table)
    (hread : p.world.settings.hasTable = true) :
    (∃ o w', Runs (ReflectionOperation.metadataOf i p.class_) w o w') ↔
      ∃ md, p.subject.extract p.read = .ok md := by
  constructor
  · rintro ⟨o, w', hrun⟩
    have hremembered : Runs (p.remember i table) p.world o w' := h.run_metadataOf.symm.trans hrun
    obtain ⟨place, w₁, hextracted, -⟩ := exists_of_runs_bind hremembered
    obtain ⟨-, md, hmd, -⟩ := extract_of_runs hp hextracted
    exact ⟨md, hmd⟩
  · rintro ⟨md, hmd⟩
    obtain ⟨o, w', hrun, -⟩ := h.gives_metadataOf hp hread hmd
    exact ⟨o, w', hrun⟩

/-- The metadata of a class is found if and only if what its tables say of the names that it shows
as documentation is nothing, a text, or counts as no, and what they say of the type and the
description of these names, where that is read, counts as no or can be written. Then the type of each property is, in this
order, the one in the entry for it in the nearest table that has one, that of the first type tag of
its documentation, or its annotation in the nearest class that annotates it, or else the kind of its
value. What the nearest class says is what the classes say put over one another, and it is inherited
where nearer ones are silent. But where the entry has something for documentation that is no text
and counts as no, the attribute is taken to have no documentation, though a class has a note on
it. -/
theorem types_by_precedence_unless_stray (h : p.IsMade i table w) (hp : p.IsSeen i.calls table)
    (hread : p.world.settings.hasTable = true) (hkeyed : p.IsKeyed) :
    ((∃ o w', Runs (ReflectionOperation.metadataOf i p.class_) w o w') ↔ p.CanBeRead) ∧
    (∀ o w', Runs (ReflectionOperation.metadataOf i p.class_) w o w' →
      ∃ md, w'.Describes o p.class_ md ∧ ∀ name v, (name, v) ∈ p.own ++ p.placed →
        (∀ f, v ≠ .callable f) → isPrivate name = false → ¬ p.subject.ClassKind name .computed →
          ∃ info, md.properties.lookup name = some info ∧
            ((∀ d, ¬ p.IsStray name d) → info.type = p.typeOf name v (p.documentation? name)) ∧
            ∀ d, p.IsStray name d → info.type = p.typeOf name v none) ∧
    (∀ name, (p.overlaid (·.table)).lookup name = p.nearest? (·.table) name ∧
      (p.overlaid (·.notes)).lookup name = p.nearest? (·.notes) name ∧
      (p.overlaid (·.annotations)).lookup name = p.nearest? (·.annotations) name) ∧
    ∀ (q : Probe) (nearer : List ClassId) (name : String), q.world.info = p.world.info →
      q.world.settings = p.world.settings → q.order = nearer ++ p.order →
      (∀ c ∈ nearer, (p.world.info c).table.lookup name = none ∧
        (p.world.info c).notes.lookup name = none ∧
        (p.world.info c).annotations.lookup name = none) →
      q.declaredType? name (q.documentation? name) =
        p.declaredType? name (p.documentation? name) := by
  refine ⟨?_, fun o w' hrun => ?_, fun name => ⟨?_, ?_, ?_⟩, ?_⟩
  · rw [h.exists_runs_iff hp hread, Subject.exists_extract_iff]
    exact forall₃_congr fun name kind _ => canShow_iff
  · obtain ⟨md, hmd⟩ := (h.exists_runs_iff hp hread).1 ⟨o, w', hrun⟩
    obtain ⟨o', v', hrun', hdescribes⟩ := h.gives_metadataOf hp hread hmd
    obtain ⟨rfl, rfl⟩ := hrun.unique hrun'
    refine ⟨md, hdescribes, fun name v hattribute hplain hpublic hnew => ?_⟩
    exact type_of_property hkeyed hmd hattribute hplain hpublic hnew
  · exact lookup_overlaid hkeyed.table name
  · exact lookup_overlaid hkeyed.notes name
  · exact lookup_overlaid hkeyed.annotations name
  · intro q nearer name hinfo hsettings horder hsilent
    exact declaredType?_inherited hinfo hsettings horder hsilent

/-! ## Notes -/

/-- Notes, with a note on their text, and two classes that assign the text anew: the first one says
nothing of it, and the table of the second one has no documentation for it. -/
def noteWorld : World :=
  let setting (hasBases : Bool) : Option Routine :=
    some ⟨[], none, .construct hasBases none [(["text"], .literal (.text "a"))], none⟩
  { World.start [] with
    customs := #[
      ⟨"Note", "", [.custom 0], none, [], [], [], [("text", "@type {number} n")], none,
        setting false⟩,
      ⟨"PlainNote", "", [.custom 1, .custom 0], none, [], [], [], [], none, setting true⟩,
      ⟨"BareNote", "", [.custom 2, .custom 0], none, [], [],
        [("text", .record [("doc", .bool false)])], [], none, setting true⟩] }

/-- The state with a new note, when the usual cache has counted it. -/
def noteWorldWith (c : ClassId) : World :=
  (noteWorld.withObject { Entity.ofClass c .plain with
    attributes := [("text", .text "a")] }).withChange Place.cache fun e =>
    { e with
      body := .cache { MetadataCache.empty with extractions := 1 } (.object Place.constructors)
      attributes := Entries.put e.attributes "extractions" (.int 1) }

/-- A note. -/
def note (c : ClassId) : Probe :=
  .ofTable (noteWorldWith c) noteWorld.store.size usualTable

theorem note_isMade {c : ClassId} (hc : c = .custom 1 ∨ c = .custom 2) :
    (note c).IsMade asking (.object Place.constructors) noteWorld where
  self := rfl
  unknown := ⟨.empty, rfl, rfl⟩
  made := by
    refine ⟨noteWorld.withObject { Entity.ofClass c .plain with
      attributes := [("text", .text "a")] }, ?_, rfl⟩
    obtain rfl | rfl := hc
    · rfl
    · rfl

theorem noteWorld_hasValueTypes : noteWorld.HasValueTypes where
  library _ := rfl
  size := Nat.le_refl _
  converter := rfl
  table := rfl
  constructors kind := by cases kind <;> rfl

theorem hasTable_noteWorldWith (c : ClassId) :
    (noteWorldWith c).HasTable Place.constructors usualTable := by
  have htable := noteWorld_hasValueTypes.hasTable
  have hmade := htable.left (htable.leaves_withObject { Entity.ofClass c .plain with
    attributes := [("text", .text "a")] })
  refine hmade.left ⟨hmade.library, World.keepsConstructors_withChange ?_ _, ?_⟩
  · rw [World.entity_withObject _ (by decide)]
    nofun
  · exact World.entity_withChange (by decide)

theorem note_isSeen {c : ClassId} (hc : c = .custom 1 ∨ c = .custom 2) :
    (note c).IsSeen asking.calls (.object Place.constructors) := by
  refine isSeen_ofTable (hasTable_noteWorldWith c) fun name hname => ?_
  obtain rfl | rfl := hc
  · cases (show name ∈ [] from hname)
  · cases (show name ∈ [] from hname)

theorem note_isKeyed {c : ClassId} (hc : c = .custom 1 ∨ c = .custom 2) : (note c).IsKeyed := by
  have horder : ∀ d ∈ (note c).order, d ∈ [.custom 0, .custom 1, .custom 2] := by
    obtain rfl | rfl := hc
    · decide
    · decide
  have hsaid : ∀ d ∈ [ClassId.custom 0, .custom 1, .custom 2],
      ((noteWorld.info d).table.map (·.1)).Nodup ∧ ((noteWorld.info d).notes.map (·.1)).Nodup ∧
        ((noteWorld.info d).annotations.map (·.1)).Nodup := by
    decide
  exact ⟨List.nodup_singleton "text", fun d hd => (hsaid d (horder d hd)).1,
    fun d hd => (hsaid d (horder d hd)).2.1, fun d hd => (hsaid d (horder d hd)).2.2⟩

theorem not_computed_note {c : ClassId} (hc : c = .custom 1 ∨ c = .custom 2) (name : String) :
    ¬ (note c).subject.ClassKind name .computed := by
  rintro ⟨member, hmember, -⟩
  obtain rfl | rfl := hc
  · cases (show (name, member) ∈ [] from hmember)
  · cases (show (name, member) ∈ [] from hmember)

/-- All that the tables of the notes say is that there is no documentation. -/
theorem entry_note {c : ClassId} (hc : c = .custom 1 ∨ c = .custom 2) {name key : String} {d : Datum}
    (hd : ((note c).entry name).lookup key = some d) : d = .bool false := by
  obtain rfl | rfl := hc
  · cases (show none = some d from hd)
  · by_cases hname : name = "text"
    · subst hname
      have hentry : (note (.custom 2)).entry "text" = [("doc", .bool false)] := rfl
      rw [hentry] at hd
      exact (Prod.mk.inj (List.mem_singleton.1 (Entries.mem_of_lookup hd))).2
    · have hnone : (note (.custom 2)).nearest? (·.table) name = none := by
        refine List.findSome?_eq_none_iff.2 fun c hc => ?_
        obtain rfl | rfl : c = .custom 2 ∨ c = .custom 0 := by
          simpa using (show c ∈ [.custom 2, .custom 0] from hc)
        · have hkeys : name ∉ ["text"] := by simpa using hname
          exact Entries.lookup_eq_none_iff.2 hkeys
        · rfl
      rw [entry, hnone] at hd
      cases hd

theorem canBeRead_note {c : ClassId} (hc : c = .custom 1 ∨ c = .custom 2) : (note c).CanBeRead := by
  refine fun name kind _ => ⟨fun d hd => ?_, fun key _ d hd => ?_⟩
  · obtain rfl := entry_note hc hd.1
    rfl
  · obtain rfl := entry_note hc hd
    exact .inl rfl

/-- The text of the first note is a number, as the note on it says, and that of the second one is
the text that it holds. -/
theorem text_of_notes :
    (∃ o w', Runs (ReflectionOperation.metadataOf asking (.custom 1)) noteWorld o w' ∧
      ∃ md, w'.Describes o (.custom 1) md ∧ ∃ info, md.properties.lookup "text" = some info ∧
        info.type = TypeExpr.ofText false "number") ∧
    ∃ o w', Runs (ReflectionOperation.metadataOf asking (.custom 2)) noteWorld o w' ∧
      ∃ md, w'.Describes o (.custom 2) md ∧ ∃ info, md.properties.lookup "text" = some info ∧
        info.type = .scalar "string" := by
  have hpublic : isPrivate "text" = false := by decide +kernel
  constructor
  · obtain ⟨hfound, htypes, -⟩ :=
      types_by_precedence_unless_stray (note_isMade (.inl rfl)) (note_isSeen (.inl rfl)) rfl
        (note_isKeyed (.inl rfl))
    have hnone (name : String) (d : Datum) : ¬ (note (.custom 1)).IsStray name d := by
      rintro ⟨hdoc, -⟩
      cases (show none = some d from hdoc)
    obtain ⟨o, w', hrun⟩ := hfound.2 (canBeRead_note (.inl rfl))
    obtain ⟨md, hdescribes, hproperties⟩ := htypes o w' hrun
    obtain ⟨info, hinfo, htype, -⟩ := hproperties "text" (.text "a") List.mem_cons_self nofun
      hpublic (not_computed_note (.inl rfl) "text")
    exact ⟨o, w', hrun, md, hdescribes, info, hinfo, htype (hnone "text")⟩
  · obtain ⟨hfound, htypes, -⟩ :=
      types_by_precedence_unless_stray (note_isMade (.inr rfl)) (note_isSeen (.inr rfl)) rfl
        (note_isKeyed (.inr rfl))
    have hstray : (note (.custom 2)).IsStray "text" (.bool false) := ⟨rfl, nofun, nofun⟩
    obtain ⟨o, w', hrun⟩ := hfound.2 (canBeRead_note (.inr rfl))
    obtain ⟨md, hdescribes, hproperties⟩ := htypes o w' hrun
    obtain ⟨info, hinfo, -, htype⟩ := hproperties "text" (.text "a") List.mem_cons_self nofun
      hpublic (not_computed_note (.inr rfl) "text")
    exact ⟨o, w', hrun, md, hdescribes, info, hinfo, htype _ hstray⟩

end Probe

end SceneBridge
