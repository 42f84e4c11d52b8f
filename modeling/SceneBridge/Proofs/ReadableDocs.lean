import SceneBridge.Proofs.MemberKinds

/-!
# Documentation that can be read

When metadata can be extracted from a class. The table of a class may hold any data. What it says
about a name as documentation is read where it is a text, and passed over where it counts as no;
anything else is taken for a text all the same, and fails. What it says of the type or the
description of a name is passed over where it counts as no, and written as a text otherwise, which
fails for a datum without a written form and for an array of several cells. So the metadata of a
class is found if and only if all that is read of the names that it shows can be.
-/

namespace SceneBridge

/-! ## Loops -/

section Loops

variable {σ α : Type} {f : σ → α → Except Fault σ} {as : List α} {x : σ}

/-- A loop succeeds where each of its turns does. What a turn depends on is kept by all of them. -/
theorem exists_foldlM_iff {I : σ → Prop} {P : α → Prop}
    (hstep : ∀ a x, I x → ((∃ y, f x a = .ok y) ↔ P a)) (hkeep : ∀ a x y, I x → f x a = .ok y → I y)
    (hx : I x) : (∃ y, as.foldlM f x = .ok y) ↔ ∀ a ∈ as, P a := by
  induction as generalizing x with
  | nil => exact ⟨fun _ => List.forall_mem_nil _, fun _ => ⟨x, rfl⟩⟩
  | cons a as ih =>
    rw [List.foldlM_cons, List.forall_mem_cons]
    constructor
    · rintro ⟨z, hz⟩
      obtain ⟨y, hfirst, hrest⟩ := bind_eq_ok_iff.1 hz
      exact ⟨(hstep a x hx).1 ⟨y, hfirst⟩, (ih (hkeep a x y hx hfirst)).1 ⟨z, hrest⟩⟩
    · rintro ⟨ha, has⟩
      obtain ⟨y, hfirst⟩ := (hstep a x hx).2 ha
      obtain ⟨z, hrest⟩ := (ih (hkeep a x y hx hfirst)).2 has
      exact ⟨z, bind_eq_ok_iff.2 ⟨y, hfirst, hrest⟩⟩

/-- Two steps come to something where both do. Whether the second one does is independent of what
the first one comes to. -/
theorem exists_bind_iff {β : Type} {P : Prop} {x : Except Fault α} {g : α → Except Fault β}
    (hg : ∀ a, (∃ b, g a = .ok b) ↔ P) : (∃ b, x >>= g = .ok b) ↔ (∃ a, x = .ok a) ∧ P := by
  constructor
  · rintro ⟨b, hb⟩
    obtain ⟨a, ha, hrest⟩ := bind_eq_ok_iff.1 hb
    exact ⟨⟨a, ha⟩, (hg a).1 ⟨b, hrest⟩⟩
  · rintro ⟨⟨a, ha⟩, hP⟩
    obtain ⟨b, hb⟩ := (hg a).2 hP
    exact ⟨b, bind_eq_ok_iff.2 ⟨a, ha, hb⟩⟩

theorem exists_ok_iff {β : Type} (b : β) : (∃ c, (.ok b : Except Fault β) = .ok c) ↔ True :=
  iff_true_intro ⟨b, rfl⟩

theorem FailsOnly.foldlM {P : Fault → Prop} (hf : ∀ x a, FailsOnly P (f x a)) :
    FailsOnly P (as.foldlM f x) := by
  induction as generalizing x with
  | nil => exact failsOnly_ok x
  | cons a as ih =>
    rw [List.foldlM_cons]
    exact (hf x a).bind fun y => ih

end Loops

/-- A datum counts as no, or it counts as yes and has a written form. -/
def Datum.IsShowable (d : Datum) : Prop :=
  d.truth? = some false ∨ d.truth? = some true ∧ d.isWritable = true

/-- The keys of a table that are read of a name of the kind, beside its documentation. -/
def MemberKind.keys : MemberKind → List String
  | .property => ["type", "description"]
  | .method => []
  | .computed => ["type"]
  | .static => ["description"]

namespace Subject

variable {V : Type} {s : Subject V} {read : String → TypeExpr} {md md' : Metadata V}
  {name : String} {own : Option String}

/-! ## The documentation of a name -/

/-- What the tables say about a name as documentation. -/
def tableDoc (s : Subject V) (name : String) : Datum :=
  ((s.tableEntry name).lookup "doc").getD .null

/-- What the tables say about a name as documentation is a text, or counts as no. -/
def IsReadable (s : Subject V) (name : String) : Prop :=
  (∃ t, s.tableDoc name = .text t) ∨ (s.tableDoc name).truth? = some false

/-- What the tables say about a name under a key can be shown. -/
def IsWritten (s : Subject V) (name key : String) : Prop :=
  ∀ d, (s.tableEntry name).lookup key = some d → d.IsShowable

/-- All that is read of a name of the kind can be. -/
structure CanShow (s : Subject V) (name : String) (kind : MemberKind) : Prop where
  doc : s.IsReadable name
  keys : ∀ key ∈ kind.keys, s.IsWritten name key

/-- How reading what is no text, or writing what has no written form, fails. -/
inductive IsReadingFault : Fault → Prop where
  | noText : IsReadingFault (.noAttribute "object" "splitlines")
  | ambiguousTruth : IsReadingFault .ambiguousTruth
  | unwritten : IsReadingFault .unwritten

theorem block_of_text {t : String} (h : s.tableDoc name = .text t) :
    s.block read name own = .ok (DocBlock.ofText read t) := by
  unfold tableDoc at h
  rw [block, h]
  rfl

theorem block_of_null (h : s.tableDoc name = .null) :
    s.block read name own =
      .ok (((own <|> s.note? name).map (DocBlock.ofText read)).getD .empty) := by
  unfold tableDoc at h
  rw [block, h]
  cases own <|> s.note? name <;> rfl

/-- What is neither nothing nor a text counts as empty documentation or fails. -/
theorem block_of_other (hnull : s.tableDoc name ≠ .null) (htext : ∀ t, s.tableDoc name ≠ .text t) :
    s.block read name own = match (s.tableDoc name).truth? with
      | some false => .ok .empty
      | some true => .error (.noAttribute "object" "splitlines")
      | none => .error .ambiguousTruth := by
  unfold tableDoc at *
  rw [block]
  generalize ((s.tableEntry name).lookup "doc").getD .null = d at *
  cases d with
  | null => exact absurd rfl hnull
  | text t => exact absurd rfl (htext t)
  | _ => rfl

theorem exists_block_iff (read : String → TypeExpr) (own : Option String) :
    (∃ b, s.block read name own = .ok b) ↔ s.IsReadable name := by
  unfold IsReadable
  by_cases hnull : s.tableDoc name = .null
  · rw [block_of_null hnull, hnull]
    exact ⟨fun _ => .inr rfl, fun _ => ⟨_, rfl⟩⟩
  by_cases htext : ∃ t, s.tableDoc name = .text t
  · obtain ⟨t, ht⟩ := htext
    rw [block_of_text ht]
    exact ⟨fun _ => .inl ⟨t, ht⟩, fun _ => ⟨_, rfl⟩⟩
  rw [block_of_other hnull (not_exists.1 htext), or_iff_right htext]
  cases (s.tableDoc name).truth? with
  | none => exact ⟨fun ⟨_, h⟩ => (by cases h), fun h => (by cases h)⟩
  | some truth =>
    cases truth with
    | false => exact ⟨fun _ => rfl, fun _ => ⟨_, rfl⟩⟩
    | true => exact ⟨fun ⟨_, h⟩ => (by cases h), fun h => (by cases h)⟩

theorem block_failsOnly : FailsOnly IsReadingFault (s.block read name own) := by
  by_cases hnull : s.tableDoc name = .null
  · rw [block_of_null hnull]
    exact failsOnly_ok _
  by_cases htext : ∃ t, s.tableDoc name = .text t
  · obtain ⟨t, ht⟩ := htext
    rw [block_of_text ht]
    exact failsOnly_ok _
  rw [block_of_other hnull (not_exists.1 htext)]
  split
  · exact failsOnly_ok _
  · exact failsOnly_error .noText
  · exact failsOnly_error .ambiguousTruth

/-! ## The type and the description of a name -/

theorem exists_entryText?_iff {key : String} :
    (∃ t, s.entryText? name key = .ok t) ↔ s.IsWritten name key := by
  unfold IsWritten Datum.IsShowable
  rw [entryText?]
  cases (s.tableEntry name).lookup key with
  | none => exact ⟨fun _ _ h => (by cases h), fun _ => ⟨none, rfl⟩⟩
  | some d =>
    have hself {P : Datum → Prop} : (∀ e, some d = some e → P e) ↔ P d :=
      ⟨fun h => h d rfl, fun h e he => Option.some.inj he ▸ h⟩
    rw [hself]
    dsimp only
    cases d.truth? with
    | none => simp
    | some truth => cases truth <;> cases d.isWritable <;> simp

theorem entryText?_failsOnly {key : String} : FailsOnly IsReadingFault (s.entryText? name key) := by
  rw [entryText?]
  split
  · exact failsOnly_ok _
  · split
    · exact failsOnly_ok _
    · split
      · exact failsOnly_ok _
      · exact failsOnly_error .unwritten
    · exact failsOnly_error .ambiguousTruth

theorem exists_declaredType?_iff (read : String → TypeExpr) (b : DocBlock) :
    (∃ t, s.declaredType? read name b = .ok t) ↔ s.IsWritten name "type" := by
  rw [← exists_entryText?_iff, ← and_true (∃ t, s.entryText? name _ = .ok t)]
  refine exists_bind_iff fun t => ?_
  cases t with
  | some t => exact exists_ok_iff _
  | none => cases b.first? "type" <;> exact exists_ok_iff _

theorem declaredType?_failsOnly {b : DocBlock} :
    FailsOnly IsReadingFault (s.declaredType? read name b) := by
  refine entryText?_failsOnly.bind fun t => ?_
  cases t with
  | some t => exact failsOnly_ok _
  | none => cases b.first? "type" <;> exact failsOnly_ok _

theorem exists_description_iff (b : DocBlock) :
    (∃ t, s.description name b = .ok t) ↔ s.IsWritten name "description" := by
  rw [← exists_entryText?_iff, ← and_true (∃ t, s.entryText? name _ = .ok t)]
  refine exists_bind_iff fun t => ?_
  cases t with
  | some t => exact exists_ok_iff _
  | none => cases b.first? "type" <;> exact exists_ok_iff _

theorem description_failsOnly {b : DocBlock} : FailsOnly IsReadingFault (s.description name b) := by
  refine entryText?_failsOnly.bind fun t => ?_
  cases t with
  | some t => exact failsOnly_ok _
  | none => cases b.first? "type" <;> exact failsOnly_ok _

/-! ## Members -/

theorem canShow_iff {kind : MemberKind} :
    s.CanShow name kind ↔ s.IsReadable name ∧ ∀ key ∈ kind.keys, s.IsWritten name key :=
  ⟨fun h => ⟨h.doc, h.keys⟩, fun h => ⟨h.1, h.2⟩⟩

/-- A member is added, unless it is shown and what is read of it cannot be. -/
theorem exists_addMember_iff (md : Metadata V) (member : MemberView V) :
    (∃ md', s.addMember read md name member = .ok md') ↔
      ∀ kind, s.memberKind? name member = some kind → s.CanShow name kind := by
  have hself {kind : MemberKind} :
      (∀ k, some kind = some k → s.CanShow name k) ↔ s.CanShow name kind :=
    ⟨fun h => h kind rfl, fun h k hk => Option.some.inj hk ▸ h⟩
  -- Two forms of members are static, in the same way.
  have hstatic (word : String) (value : V) {member : MemberView V}
      (hmember : s.memberKind? name member =
        if Entries.has s.attributes name then none else some .static) :
      (∃ md', addMember.addStatic s read md name word value = .ok md') ↔
        ∀ kind, s.memberKind? name member = some kind → s.CanShow name kind := by
    rw [hmember, addMember.addStatic]
    by_cases hheld : Entries.has s.attributes name = true
    · rw [if_pos hheld, if_pos hheld]
      exact ⟨fun _ _ h => (by cases h), fun _ => ⟨md, rfl⟩⟩
    · rw [if_neg hheld, if_neg hheld, hself, canShow_iff, ← exists_block_iff read none]
      refine exists_bind_iff fun b => (exists_bind_iff fun text => exists_ok_iff _).trans ?_
      simp [MemberKind.keys, exists_description_iff]
  cases member with
  | accessor hasGetter hasSetter doc =>
    refine Iff.trans ?_ hself.symm
    rw [canShow_iff, ← exists_block_iff read doc]
    refine exists_bind_iff fun b => (exists_bind_iff fun type => exists_ok_iff _).trans ?_
    simp [MemberKind.keys, exists_declaredType?_iff]
  | routine view doc =>
    refine Iff.trans ?_ hself.symm
    rw [canShow_iff, ← exists_block_iff read doc]
    exact exists_bind_iff fun b => (exists_ok_iff _).trans (by simp [MemberKind.keys])
  | slot => exact ⟨fun _ _ h => (by cases h), fun _ => ⟨md, rfl⟩⟩
  | shared value => exact hstatic _ value rfl
  | constant word value => exact hstatic _ value rfl

theorem addMember_failsOnly (md : Metadata V) (member : MemberView V) :
    FailsOnly IsReadingFault (s.addMember read md name member) := by
  have hstatic (word : String) (value : V) :
      FailsOnly IsReadingFault (addMember.addStatic s read md name word value) := by
    rw [addMember.addStatic]
    split
    · exact failsOnly_ok md
    · exact block_failsOnly.bind fun b => description_failsOnly.bind fun t => failsOnly_ok _
  cases member with
  | accessor hasGetter hasSetter doc =>
    exact block_failsOnly.bind fun b => declaredType?_failsOnly.bind fun t => failsOnly_ok _
  | routine view doc => exact block_failsOnly.bind fun b => failsOnly_ok _
  | slot => exact failsOnly_ok md
  | shared value => exact hstatic _ value
  | constant word value => exact hstatic _ value

/-- An attribute is added, unless it is shown and what is read of it cannot be. -/
theorem exists_addAttribute_iff (md : Metadata V) (view : AttributeView) :
    (∃ md', s.addAttribute read md name view = .ok md') ↔
      (isPrivate name = false → name ∉ md.names .computed → s.CanShow name view.kind) := by
  have hcomputed : Entries.has md.computed name = true ↔ name ∈ md.names .computed :=
    Entries.has_iff
  unfold addAttribute
  by_cases hskipped : (isPrivate name || Entries.has md.computed name) = true
  · rw [if_pos hskipped]
    rw [Bool.or_eq_true, hcomputed] at hskipped
    refine ⟨fun _ hpublic hnew => ?_, fun _ => ⟨md, rfl⟩⟩
    obtain hprivate | hold := hskipped
    · exact absurd (hpublic.symm.trans hprivate) Bool.false_ne_true
    · exact absurd hold hnew
  · rw [if_neg hskipped]
    rw [Bool.or_eq_true, hcomputed, not_or, Bool.not_eq_true] at hskipped
    refine Iff.trans ?_ (forall_prop_of_true hskipped.1).symm
    refine Iff.trans ?_ (forall_prop_of_true hskipped.2).symm
    rw [canShow_iff, ← exists_block_iff read none]
    refine exists_bind_iff fun b => ?_
    cases view with
    | routine view => exact (exists_ok_iff _).trans (by simp [AttributeView.kind, MemberKind.keys])
    | value word =>
      refine (exists_bind_iff fun type => exists_bind_iff fun text => exists_ok_iff _).trans ?_
      simp [AttributeView.kind, MemberKind.keys, exists_declaredType?_iff, exists_description_iff]

theorem addAttribute_failsOnly (md : Metadata V) (view : AttributeView) :
    FailsOnly IsReadingFault (s.addAttribute read md name view) := by
  unfold addAttribute
  split
  · exact failsOnly_ok md
  · refine block_failsOnly.bind fun b => ?_
    cases view with
    | routine view => exact failsOnly_ok _
    | value word =>
      exact declaredType?_failsOnly.bind fun type => description_failsOnly.bind fun t =>
        failsOnly_ok _

/-! ## Extraction -/

/-- The metadata is about the name as one of the kind. -/
def Shows (s : Subject V) (name : String) (kind : MemberKind) : Prop :=
  s.ClassKind name kind ∨ s.InstanceKind name kind

/-- Adding an attribute adds no computed property. -/
theorem addAttribute_computed {view : AttributeView} {other : String}
    (h : s.addAttribute read md name view = .ok md') :
    other ∈ md'.names .computed ↔ other ∈ md.names .computed := by
  refine (addAttribute_names h).trans (or_iff_left ?_)
  rintro ⟨-, -, -, hkind⟩
  cases view <;> cases hkind

theorem exists_addMembers_iff (md : Metadata V) :
    (∃ md', s.members.foldlM (fun md (name, member) => s.addMember read md name member) md =
      .ok md') ↔
      ∀ e ∈ s.members, ∀ kind, s.memberKind? e.1 e.2 = some kind → s.CanShow e.1 kind :=
  exists_foldlM_iff (I := fun _ => True) (fun e md _ => exists_addMember_iff md e.2)
    (fun _ _ _ _ _ => trivial) trivial

/-- Attributes are added to the members of the classes, of which the computed ones stay as they
are. -/
theorem exists_addAttributes_iff {md : Metadata V}
    (hmd : ∀ name, name ∈ md.names .computed ↔ s.ClassKind name .computed) :
    (∃ md', s.attributes.foldlM (fun md (name, view) => s.addAttribute read md name view) md =
      .ok md') ↔ ∀ e ∈ s.attributes, isPrivate e.1 = false → ¬ s.ClassKind e.1 .computed →
        s.CanShow e.1 e.2.kind := by
  refine exists_foldlM_iff (I := fun md : Metadata V => ∀ name, name ∈ md.names .computed ↔
    s.ClassKind name .computed) (fun e md hmd => ?_) (fun e md md' hmd h name => ?_) hmd
  · rw [← hmd]
    exact exists_addAttribute_iff md e.2
  · exact (addAttribute_computed h).trans (hmd name)

theorem addMembers_computed {md : Metadata V} (h : s.members.foldlM
    (fun md (name, member) => s.addMember read md name member)
      { Metadata.empty with events := s.classEvents read } = .ok md) (name : String) :
    name ∈ md.names .computed ↔ s.ClassKind name .computed :=
  (addMembers_names h).trans (or_iff_right List.not_mem_nil)

/-- The metadata is found just where all that is read of the names that are shown can be. -/
theorem exists_extract_iff :
    (∃ md, s.extract read = .ok md) ↔ ∀ name kind, s.Shows name kind → s.CanShow name kind := by
  constructor
  · rintro ⟨md, hmd⟩ name kind (⟨member, hmember, hkind⟩ | ⟨hpublic, hnew, view, hview, rfl⟩)
    · obtain ⟨md₁, hmembers, -⟩ := bind_eq_ok_iff.1 hmd
      exact (exists_addMembers_iff _).1 ⟨md₁, hmembers⟩ (name, member) hmember kind hkind
    · obtain ⟨md₁, hmembers, hattributes⟩ := bind_eq_ok_iff.1 hmd
      exact (exists_addAttributes_iff (addMembers_computed hmembers)).1 ⟨md, hattributes⟩
        (name, view) hview hpublic hnew
  · intro hall
    obtain ⟨md₁, hmembers⟩ :=
      (exists_addMembers_iff { Metadata.empty with events := s.classEvents read }).2
        fun e he kind hkind => hall e.1 kind (.inl ⟨e.2, he, hkind⟩)
    obtain ⟨md, hattributes⟩ := (exists_addAttributes_iff (addMembers_computed hmembers)).2
      fun e he hpublic hnew => hall e.1 e.2.kind (.inr ⟨hpublic, hnew, e.2, he, rfl⟩)
    exact ⟨md, bind_eq_ok_iff.2 ⟨md₁, hmembers, hattributes⟩⟩

theorem extract_failsOnly : FailsOnly IsReadingFault (s.extract read) := by
  refine FailsOnly.bind (.foldlM fun md e => addMember_failsOnly md e.2) fun md => ?_
  exact .foldlM fun md e => addAttribute_failsOnly md e.2

end Subject

end SceneBridge
