import SceneBridge.Proofs.ReadableDocs

/-!
# Metadata under extension

A class that inherits from another one and adds members under new names, documented and annotated
for these names only, keeps what is known of the other one: each property, method, computed
property, event and static member is known under its name as before. The properties keep their
order, too, but those that instances have places for come behind the new ones.
-/

namespace SceneBridge

/-! ## Tables -/

namespace Entries

variable {K V : Type} [BEq K] [LawfulBEq K] {P : K → Bool} {entries : List (K × V)} {key : K}

theorem filter_put_of_pos (value : V) (h : P key = true) :
    (put entries key value).filter (P ·.1) = put (entries.filter (P ·.1)) key value := by
  induction entries with
  | nil => simp [put, h]
  | cons e rest ih =>
    obtain ⟨k, v⟩ := e
    by_cases hk : k = key
    · subst hk
      simp [put, h]
    · cases hP : P k <;> simp [put, hk, hP, ih]

theorem filter_put_of_neg (value : V) (h : P key = false) :
    (put entries key value).filter (P ·.1) = entries.filter (P ·.1) := by
  induction entries with
  | nil => simp [put, h]
  | cons e rest ih =>
    obtain ⟨k, v⟩ := e
    by_cases hk : k = key
    · subst hk
      simp [put, h]
    · cases hP : P k <;> simp [put, hk, hP, ih]

theorem has_filter (h : P key = true) :
    has (entries.filter (P ·.1)) key = has entries key := by
  rw [Bool.eq_iff_iff, has_iff, has_iff]
  simp only [List.mem_map, List.mem_filter]
  constructor
  · rintro ⟨e, ⟨he, -⟩, rfl⟩
    exact ⟨e, he, rfl⟩
  · rintro ⟨e, he, rfl⟩
    exact ⟨e, ⟨he, h⟩, rfl⟩

/-- What a part of a table has under a key is what the table has. -/
theorem lookup_of_filter {value : V} (h : (entries.filter (P ·.1)).lookup key = some value) :
    entries.lookup key = some value := by
  induction entries with
  | nil => exact h
  | cons e rest ih =>
    obtain ⟨k, v⟩ := e
    by_cases hk : key = k
    · subst hk
      cases hP : P key with
      | true => simpa [hP] using h
      | false =>
        have hmem := mem_of_lookup h
        simp [hP] at hmem
    · have hne : (key == k) = false := beq_eq_false_iff_ne.2 hk
      rw [List.lookup_cons, hne]
      refine ih ?_
      cases hP : P k with
      | true => simpa [hP, List.lookup_cons, hne] using h
      | false => simpa [hP] using h

omit [LawfulBEq K] in
theorem lookup_map_snd {W : Type} (f : V → W) :
    (entries.map fun e => (e.1, f e.2)).lookup key = (entries.lookup key).map f := by
  induction entries with
  | nil => rfl
  | cons e rest ih =>
    rw [List.map_cons, List.lookup_cons, List.lookup_cons, ih]
    cases key == e.1 <;> rfl

end Entries

/-! ## Loops -/

section Loops

variable {σ τ α β γ : Type}

/-- A loop each turn of which succeeds, and keeps what `R` says. -/
theorem foldlM_succeeds {R : σ → σ → Prop} (hrefl : ∀ x, R x x)
    (htrans : ∀ {x y z}, R x y → R y z → R x z) {f : σ → α → Except Fault σ} {as : List α}
    (hf : ∀ a ∈ as, ∀ x, ∃ y, f x a = .ok y ∧ R x y) (x : σ) :
    ∃ y, as.foldlM f x = .ok y ∧ R x y := by
  induction as generalizing x with
  | nil => exact ⟨x, rfl, hrefl x⟩
  | cons a as ih =>
    obtain ⟨y, hfirst, hy⟩ := hf a List.mem_cons_self x
    obtain ⟨z, hrest, hz⟩ := ih (fun b hb => hf b (List.mem_cons_of_mem _ hb)) y
    refine ⟨z, ?_, htrans hy hz⟩
    rw [List.foldlM_cons]
    exact bind_eq_ok_iff.2 ⟨y, hfirst, hrest⟩

/-- A loop over similar items goes along with one that succeeds. -/
theorem foldlM_follows {R : τ → σ → Prop} {f : σ → α → Except Fault σ} {g : τ → β → Except Fault τ}
    {k : α → γ} {l : β → γ} {as : List α} {bs : List β} (hsimilar : bs.map l = as.map k)
    (hstep : ∀ a ∈ as, ∀ b, l b = k a → ∀ {x x' y}, R x' x → f x a = .ok y →
      ∃ y', g x' b = .ok y' ∧ R y' y)
    {x y : σ} {x' : τ} (hx : R x' x) (h : as.foldlM f x = .ok y) :
    ∃ y', bs.foldlM g x' = .ok y' ∧ R y' y := by
  induction as generalizing bs x x' with
  | nil =>
    obtain rfl := List.map_eq_nil_iff.1 hsimilar
    obtain rfl := Except.ok.inj h
    exact ⟨x', rfl, hx⟩
  | cons a as ih =>
    obtain ⟨b, bs, rfl, hb, hbs⟩ := List.map_eq_cons_iff.1 hsimilar
    rw [List.foldlM_cons] at h
    obtain ⟨x₁, hfirst, hrest⟩ := bind_eq_ok_iff.1 h
    obtain ⟨x₁', hfirst', hx₁⟩ := hstep a List.mem_cons_self b hb hx hfirst
    obtain ⟨y', hrest', hy⟩ :=
      ih hbs (fun a ha => hstep a (List.mem_cons_of_mem _ ha)) hx₁ hrest
    refine ⟨y', ?_, hy⟩
    rw [List.foldlM_cons]
    exact bind_eq_ok_iff.2 ⟨x₁', hfirst', hrest'⟩

end Loops

/-! ## Members by name -/

section FirstOfEach

variable {α β : Type}

theorem firstOfEach_map (f : α → β) (es : List (String × α)) :
    firstOfEach (es.map fun e => (e.1, f e.2)) = (firstOfEach es).map fun e => (e.1, f e.2) := by
  induction es with
  | nil => rfl
  | cons e es ih =>
    obtain ⟨k, a⟩ := e
    simp only [List.map_cons, firstOfEach, ih, List.filter_map]
    rfl

theorem firstOfEach_sublist (es : List (String × α)) : (firstOfEach es).Sublist es := by
  induction es with
  | nil => exact .slnil
  | cons e es ih => exact (List.filter_sublist.trans ih).cons_cons e

/-- Of two lists without a common name, each keeps its own members. -/
theorem firstOfEach_append {es fs : List (String × α)}
    (h : ∀ e ∈ es, e.1 ∉ fs.map (·.1)) : firstOfEach (es ++ fs) = firstOfEach es ++ firstOfEach fs := by
  induction es with
  | nil => rfl
  | cons e es ih =>
    obtain ⟨k, a⟩ := e
    have hfs : (firstOfEach fs).filter (fun e => !(e.1 == k)) = firstOfEach fs := by
      refine List.filter_eq_self.2 fun e he => ?_
      have hne : e.1 ≠ k := fun heq =>
        h (k, a) List.mem_cons_self (List.mem_map.2 ⟨e, (firstOfEach_sublist fs).subset he, heq⟩)
      simp [hne]
    rw [List.cons_append, firstOfEach, ih fun e he => h e (List.mem_cons_of_mem _ he),
      List.filter_append, hfs]
    rfl

end FirstOfEach

/-! ## Shapes -/

section Shapes

variable {V : Type}

/-- The member without its value. -/
def MemberView.shape : MemberView V → MemberView Unit
  | .accessor hasGetter hasSetter doc => .accessor hasGetter hasSetter doc
  | .routine view doc => .routine view doc
  | .slot => .slot
  | .shared _ => .shared ()
  | .constant kind _ => .constant kind ()

/-- The documentation of a member that counts for reflection. -/
def MemberView.doc? : MemberView V → Option String
  | .accessor _ _ doc | .routine _ doc => doc
  | _ => none

/-- The class without the values of its members. -/
def ClassView.shape (c : ClassView V) : ClassView Unit :=
  ⟨c.doc, c.members.map fun e => (e.1, e.2.shape), c.annotations, c.table, c.notes⟩

/-- The names of which the class says anything. -/
def ClassView.names (c : ClassView V) : List String :=
  c.members.map (·.1) ++ c.annotations.map (·.1) ++ c.table.map (·.1) ++ c.notes.map (·.1)

/-- The static member without its value. -/
def StaticInfo.shape (i : StaticInfo V) : StaticInfo Unit :=
  ⟨i.name, i.type, (), i.description⟩

namespace Metadata

/-- What is known of the names `P` and the events `E`, without the values of static members. -/
def part (P E : String → Bool) (md : Metadata V) : Metadata Unit where
  properties := md.properties.filter (P ·.1)
  methods := md.methods.filter (P ·.1)
  computed := md.computed.filter (P ·.1)
  events := md.events.filter (E ·.1)
  statics := (md.statics.filter (P ·.1)).map fun e => (e.1, e.2.shape)

/-- What is known by the first metadata is known by the second, but for the values of static
members. -/
structure IsKeptIn (md md' : Metadata V) : Prop where
  properties : ∀ {name info}, md.properties.lookup name = some info →
    md'.properties.lookup name = some info
  methods : ∀ {name info}, md.methods.lookup name = some info →
    md'.methods.lookup name = some info
  computed : ∀ {name info}, md.computed.lookup name = some info →
    md'.computed.lookup name = some info
  events : ∀ {name info}, md.events.lookup name = some info →
    md'.events.lookup name = some info
  statics : ∀ {name info}, md.statics.lookup name = some info →
    ∃ info', md'.statics.lookup name = some info' ∧ info'.shape = info.shape

variable {P E : String → Bool} {md md' : Metadata V}

theorem isKeptIn_of_part (h : md.part P E = md'.part P E)
    (hnames : ∀ kind, ∀ name ∈ md.names kind, P name = true)
    (hevents : ∀ name ∈ md.events.map (·.1), E name = true) : md.IsKeptIn md' := by
  have hself {α : Type} {es : List (String × α)} {Q : String → Bool}
      (hQ : ∀ name ∈ es.map (·.1), Q name = true) : es.filter (Q ·.1) = es :=
    List.filter_eq_self.2 fun e he => hQ e.1 (List.mem_map_of_mem he)
  have hproperties := congrArg Metadata.properties h
  have hmethods := congrArg Metadata.methods h
  have hcomputed := congrArg Metadata.computed h
  have hevent := congrArg Metadata.events h
  have hstatics := congrArg Metadata.statics h
  simp only [part] at hproperties hmethods hcomputed hevent hstatics
  rw [hself (hnames .property)] at hproperties
  rw [hself (hnames .method)] at hmethods
  rw [hself (hnames .computed)] at hcomputed
  rw [hself hevents] at hevent
  rw [hself (hnames .static)] at hstatics
  constructor
  case properties =>
    intro name info hfound
    exact Entries.lookup_of_filter (hproperties ▸ hfound)
  case methods =>
    intro name info hfound
    exact Entries.lookup_of_filter (hmethods ▸ hfound)
  case computed =>
    intro name info hfound
    exact Entries.lookup_of_filter (hcomputed ▸ hfound)
  case events =>
    intro name info hfound
    exact Entries.lookup_of_filter (hevent ▸ hfound)
  case statics =>
    intro name info hfound
    have hshape := congrArg (List.lookup name) hstatics
    rw [Entries.lookup_map_snd, Entries.lookup_map_snd, hfound, Option.map_some] at hshape
    obtain ⟨info', hfound', heq⟩ := Option.map_eq_some_iff.1 hshape.symm
    exact ⟨info', Entries.lookup_of_filter hfound', heq⟩

end Metadata

end Shapes

/-! ## Events -/

section Events

variable {E : String → Bool} {events events' : List (String × EventInfo)}

/-- Of the events `E`, the same are known as before. -/
theorem filter_addEvents_congr (b : DocBlock)
    (h : events.filter (E ·.1) = events'.filter (E ·.1)) :
    (addEvents events b).filter (E ·.1) = (addEvents events' b).filter (E ·.1) := by
  rw [addEvents, addEvents]
  induction b.all "event" generalizing events events' with
  | nil => exact h
  | cons tag tags ih =>
    rw [List.foldl_cons, List.foldl_cons]
    refine ih ?_
    by_cases hname : (nameIn tag.description).isEmpty = true
    · rw [if_pos hname, if_pos hname, h]
    · rw [if_neg hname, if_neg hname]
      cases hE : E (nameIn tag.description) with
      | true => rw [Entries.filter_put_of_pos _ hE, Entries.filter_put_of_pos _ hE, h]
      | false => rw [Entries.filter_put_of_neg _ hE, Entries.filter_put_of_neg _ hE, h]

/-- The block names other events only. -/
def DocBlock.NamesOther (b : DocBlock) (E : String → Bool) : Prop :=
  ∀ tag ∈ b.all "event", E (nameIn tag.description) = false

theorem DocBlock.NamesOther.filter_addEvents {b : DocBlock} (hb : b.NamesOther E)
    (events : List (String × EventInfo)) :
    (addEvents events b).filter (E ·.1) = events.filter (E ·.1) := by
  unfold DocBlock.NamesOther at hb
  rw [addEvents]
  generalize b.all "event" = tags at hb ⊢
  induction tags generalizing events with
  | nil => rfl
  | cons tag tags ih =>
    rw [List.foldl_cons, ih _ fun tag' htag => hb tag' (List.mem_cons_of_mem _ htag)]
    by_cases hname : (nameIn tag.description).isEmpty = true
    · rw [if_pos hname]
    · rw [if_neg hname]
      exact Entries.filter_put_of_neg _ (hb tag List.mem_cons_self)

end Events

namespace Subject

variable {V : Type} {s t : Subject V} {read : String → TypeExpr} {P E : String → Bool}
  {md md' r : Metadata V} {name : String}

/-! ## What two classes say about a name -/

/-- The names of the members of the classes, and of the attributes of the instance. -/
def names (s : Subject V) : List String :=
  (s.classes.flatMap (·.members)).map (·.1) ++ s.attributes.map (·.1)

/-- Both say the same about a name. -/
structure AgreeOn (s t : Subject V) (name : String) : Prop where
  entry : t.tableEntry name = s.tableEntry name
  note : t.note? name = s.note? name
  annotation : t.annotation? name = s.annotation? name
  held : Entries.has t.attributes name = Entries.has s.attributes name

theorem AgreeOn.block (h : s.AgreeOn t name) (own : Option String) :
    t.block read name own = s.block read name own := by
  rw [Subject.block, Subject.block, h.entry, h.note]

theorem AgreeOn.declaredType? (h : s.AgreeOn t name) (b : DocBlock) :
    t.declaredType? read name b = s.declaredType? read name b := by
  rw [Subject.declaredType?, Subject.declaredType?, entryText?, entryText?, h.entry, h.annotation]

theorem AgreeOn.description (h : s.AgreeOn t name) (b : DocBlock) :
    t.description name b = s.description name b := by
  rw [Subject.description, Subject.description, entryText?, entryText?, h.entry]

/-- All that is read of a name of the kind can be, and its documentation names other events than
`E`. -/
structure Documents (t : Subject V) (read : String → TypeExpr) (E : String → Bool) (name : String)
    (own : Option String) (kind : MemberKind) : Prop where
  block : ∃ b, t.block read name own = .ok b ∧ b.NamesOther E
  keys : ∀ key ∈ kind.keys, t.IsWritten name key

/-! ## Members -/

/-- A member under another name adds nothing to what is known of the names `P`. -/
theorem addMember_other (md : Metadata V) {member : MemberView V} (hname : P name = false)
    (hdoc : ∀ kind, t.memberKind? name member = some kind →
      t.Documents read E name member.doc? kind) :
    ∃ r, t.addMember read md name member = .ok r ∧ r.part P E = md.part P E := by
  have hstatic (word : String) (value : V) (hdoc : Entries.has t.attributes name ≠ true →
      t.Documents read E name none .static) :
      ∃ r, addMember.addStatic t read md name word value = .ok r ∧ r.part P E = md.part P E := by
    rw [addMember.addStatic]
    split
    · exact ⟨md, rfl, rfl⟩
    · obtain ⟨⟨b, hb, hevents⟩, hkeys⟩ := hdoc ‹_›
      obtain ⟨text, htext⟩ := (exists_description_iff b).2 (hkeys _ List.mem_cons_self)
      refine ⟨_, bind_eq_ok_iff.2 ⟨b, hb, bind_eq_ok_iff.2 ⟨text, htext, rfl⟩⟩, ?_⟩
      simp [Metadata.part, hname, hevents.filter_addEvents]
  cases member with
  | accessor hasGetter hasSetter doc =>
    obtain ⟨⟨b, hb, hevents⟩, hkeys⟩ := hdoc .computed rfl
    obtain ⟨type, htype⟩ :=
      (exists_declaredType?_iff read b).2 (hkeys _ List.mem_cons_self)
    refine ⟨_, bind_eq_ok_iff.2 ⟨b, hb, bind_eq_ok_iff.2 ⟨type, htype, rfl⟩⟩, ?_⟩
    simp [Metadata.part, hname, hevents.filter_addEvents]
  | routine view doc =>
    obtain ⟨⟨b, hb, hevents⟩, -⟩ := hdoc .method rfl
    refine ⟨_, bind_eq_ok_iff.2 ⟨b, hb, rfl⟩, ?_⟩
    simp [Metadata.part, hname, hevents.filter_addEvents]
  | slot => exact ⟨md, rfl, rfl⟩
  | shared value => exact hstatic _ value fun hnew => hdoc .static (if_neg hnew)
  | constant word value => exact hstatic _ value fun hnew => hdoc .static (if_neg hnew)

/-- The same member adds the same to what is known of the names `P`. -/
theorem addMember_same {member member' : MemberView V} (hP : P name = true)
    (hagree : s.AgreeOn t name) (hmember : member'.shape = member.shape)
    (hmd : md'.part P E = md.part P E) (h : s.addMember read md name member = .ok r) :
    ∃ r', t.addMember read md' name member' = .ok r' ∧ r'.part P E = r.part P E := by
  simp only [Metadata.part, Metadata.mk.injEq] at hmd
  obtain ⟨hproperties, hmethods, hcomputed, hevents, hstatics⟩ := hmd
  have hstatic {kind : String} {value value' : V}
      (h : addMember.addStatic s read md name kind value = .ok r) :
      ∃ r', addMember.addStatic t read md' name kind value' = .ok r' ∧
        r'.part P E = r.part P E := by
    rw [addMember.addStatic, hagree.held]
    rw [addMember.addStatic] at h
    split at h
    · rw [if_pos ‹_›]
      obtain rfl := Except.ok.inj h
      exact ⟨md', rfl, by simp [Metadata.part, *]⟩
    · rw [if_neg ‹_›, hagree.block]
      obtain ⟨b, hb, hrest⟩ := bind_eq_ok_iff.1 h
      obtain ⟨text, htext, hlast⟩ := bind_eq_ok_iff.1 hrest
      obtain rfl := Except.ok.inj hlast
      rw [← hagree.description] at htext
      refine ⟨_, bind_eq_ok_iff.2 ⟨b, hb, bind_eq_ok_iff.2 ⟨text, htext, rfl⟩⟩, ?_⟩
      simp [Metadata.part, *, filter_addEvents_congr b hevents]
      rfl
  cases member with
  | accessor hasGetter hasSetter doc =>
    cases member' <;> cases hmember
    obtain ⟨b, hb, hrest⟩ := bind_eq_ok_iff.1 h
    obtain ⟨type, htype, hlast⟩ := bind_eq_ok_iff.1 hrest
    obtain rfl := Except.ok.inj hlast
    rw [← hagree.block] at hb
    rw [← hagree.declaredType?] at htype
    refine ⟨_, bind_eq_ok_iff.2 ⟨b, hb, bind_eq_ok_iff.2 ⟨type, htype, rfl⟩⟩, ?_⟩
    simp [Metadata.part, *, filter_addEvents_congr b hevents]
  | routine view doc =>
    cases member' <;> cases hmember
    obtain ⟨b, hb, hlast⟩ := bind_eq_ok_iff.1 h
    obtain rfl := Except.ok.inj hlast
    simp only [addMember, hagree.block, hb]
    refine ⟨_, rfl, ?_⟩
    simp [Metadata.part, *, filter_addEvents_congr b hevents]
  | slot =>
    cases member' <;> cases hmember
    obtain rfl := Except.ok.inj h
    exact ⟨md', rfl, by simp [Metadata.part, *]⟩
  | shared value =>
    cases member' <;> cases hmember
    exact hstatic h
  | constant kind value =>
    cases member' <;> cases hmember
    exact hstatic h

theorem addMember_properties {member : MemberView V} (h : s.addMember read md name member = .ok r) :
    r.properties = md.properties := by
  have hstatic {kind : String} {value : V}
      (h : addMember.addStatic s read md name kind value = .ok r) : r.properties = md.properties := by
    rw [addMember.addStatic] at h
    split at h
    · obtain rfl := Except.ok.inj h
      rfl
    · obtain ⟨b, -, hrest⟩ := bind_eq_ok_iff.1 h
      obtain ⟨text, -, hlast⟩ := bind_eq_ok_iff.1 hrest
      obtain rfl := Except.ok.inj hlast
      rfl
  cases member with
  | accessor hasGetter hasSetter doc =>
    obtain ⟨b, -, hrest⟩ := bind_eq_ok_iff.1 h
    obtain ⟨type, -, hlast⟩ := bind_eq_ok_iff.1 hrest
    obtain rfl := Except.ok.inj hlast
    rfl
  | routine view doc =>
    obtain ⟨b, -, hlast⟩ := bind_eq_ok_iff.1 h
    obtain rfl := Except.ok.inj hlast
    rfl
  | slot =>
    obtain rfl := Except.ok.inj h
    rfl
  | shared value => exact hstatic h
  | constant kind value => exact hstatic h

/-! ## Attributes -/

theorem addAttribute_other (md : Metadata V) (view : AttributeView) (hname : P name = false)
    (hdoc : isPrivate name = false → t.Documents read E name none view.kind) :
    ∃ r, t.addAttribute read md name view = .ok r ∧ r.part P E = md.part P E := by
  rw [addAttribute]
  split
  · exact ⟨md, rfl, rfl⟩
  · rename_i hshown
    rw [Bool.or_eq_true, not_or, Bool.not_eq_true] at hshown
    obtain ⟨⟨b, hb, hevents⟩, hkeys⟩ := hdoc hshown.1
    cases view with
    | routine view =>
      refine ⟨_, bind_eq_ok_iff.2 ⟨b, hb, rfl⟩, ?_⟩
      simp [Metadata.part, hevents.filter_addEvents, Entries.filter_put_of_neg _ hname]
    | value kind =>
      obtain ⟨type, htype⟩ :=
        (exists_declaredType?_iff read b).2 (hkeys _ List.mem_cons_self)
      obtain ⟨text, htext⟩ := (exists_description_iff b).2
        (hkeys _ (List.mem_cons_of_mem _ List.mem_cons_self))
      refine ⟨_, bind_eq_ok_iff.2 ⟨b, hb, bind_eq_ok_iff.2 ⟨type, htype,
        bind_eq_ok_iff.2 ⟨text, htext, rfl⟩⟩⟩, ?_⟩
      simp [Metadata.part, hevents.filter_addEvents, Entries.filter_put_of_neg _ hname]

theorem addAttribute_same {view : AttributeView} (hP : P name = true)
    (hagree : s.AgreeOn t name) (hmd : md'.part P E = md.part P E)
    (h : s.addAttribute read md name view = .ok r) :
    ∃ r', t.addAttribute read md' name view = .ok r' ∧ r'.part P E = r.part P E := by
  have hmd' := hmd
  simp only [Metadata.part, Metadata.mk.injEq] at hmd
  obtain ⟨hproperties, hmethods, hcomputed, hevents, hstatics⟩ := hmd
  have hhas : Entries.has md'.computed name = Entries.has md.computed name := by
    have hpart : Entries.has (md'.computed.filter (P ·.1)) name = Entries.has md'.computed name :=
      Entries.has_filter hP
    rw [← hpart, hcomputed, Entries.has_filter hP]
  rw [addAttribute, hhas]
  rw [addAttribute] at h
  split at h
  · rw [if_pos ‹_›]
    obtain rfl := Except.ok.inj h
    exact ⟨md', rfl, hmd'⟩
  · rw [if_neg ‹_›]
    obtain ⟨b, hb, hrest⟩ := bind_eq_ok_iff.1 h
    rw [← hagree.block] at hb
    cases view with
    | routine view =>
      obtain rfl := Except.ok.inj hrest
      refine ⟨_, bind_eq_ok_iff.2 ⟨b, hb, rfl⟩, ?_⟩
      simp [Metadata.part, *, filter_addEvents_congr b hevents, Entries.filter_put_of_pos _ hP]
    | value kind =>
      obtain ⟨type, htype, hrest⟩ := bind_eq_ok_iff.1 hrest
      obtain ⟨text, htext, hlast⟩ := bind_eq_ok_iff.1 hrest
      obtain rfl := Except.ok.inj hlast
      rw [← hagree.declaredType?] at htype
      rw [← hagree.description] at htext
      refine ⟨_, bind_eq_ok_iff.2 ⟨b, hb, bind_eq_ok_iff.2 ⟨type, htype,
        bind_eq_ok_iff.2 ⟨text, htext, rfl⟩⟩⟩, ?_⟩
      simp [Metadata.part, *, filter_addEvents_congr b hevents, Entries.filter_put_of_pos _ hP]

/-- A new attribute is at most one property, behind the others. -/
theorem addAttribute_properties {view : AttributeView} (hnew : name ∉ md.properties.map (·.1))
    (h : s.addAttribute read md name view = .ok r) :
    ∃ more, r.properties = md.properties ++ more ∧ ∀ e ∈ more, e.1 = name := by
  unfold addAttribute at h
  split at h
  · obtain rfl := Except.ok.inj h
    exact ⟨[], by simp, nofun⟩
  · obtain ⟨b, -, hrest⟩ := bind_eq_ok_iff.1 h
    cases view with
    | routine view =>
      obtain rfl := Except.ok.inj hrest
      exact ⟨[], by simp, nofun⟩
    | value kind =>
      obtain ⟨type, -, hrest⟩ := bind_eq_ok_iff.1 hrest
      obtain ⟨text, -, hlast⟩ := bind_eq_ok_iff.1 hrest
      obtain rfl := Except.ok.inj hlast
      refine ⟨_, Entries.put_of_notMem _ hnew, fun e he => ?_⟩
      rw [List.mem_singleton.1 he]

/-- Of attributes with different names, the properties come one behind the other. -/
theorem addAttributes_properties {attributes : List (String × AttributeView)}
    (hnodup : (attributes.map (·.1)).Nodup)
    (hnew : ∀ e ∈ attributes, e.1 ∉ md.properties.map (·.1))
    (h : attributes.foldlM (fun md (name, view) => s.addAttribute read md name view) md = .ok r) :
    ∃ more, r.properties = md.properties ++ more ∧ ∀ e ∈ more, e.1 ∈ attributes.map (·.1) := by
  induction attributes generalizing md with
  | nil =>
    obtain rfl := Except.ok.inj h
    exact ⟨[], by simp, nofun⟩
  | cons first attributes ih =>
    obtain ⟨key, view⟩ := first
    rw [List.foldlM_cons] at h
    obtain ⟨md₁, hfirst, hrest⟩ := bind_eq_ok_iff.1 h
    obtain ⟨more, hmore, hkey⟩ := addAttribute_properties (hnew _ List.mem_cons_self) hfirst
    rw [List.map_cons, List.nodup_cons] at hnodup
    have hnew₁ : ∀ e ∈ attributes, e.1 ∉ md₁.properties.map (·.1) := by
      intro e he hmem
      rw [hmore, List.map_append, List.mem_append] at hmem
      obtain hmem | hmem := hmem
      · exact hnew e (List.mem_cons_of_mem _ he) hmem
      · obtain ⟨e', he', heq⟩ := List.mem_map.1 hmem
        exact hnodup.1 (List.mem_map.2 ⟨e, he, heq.symm.trans (hkey e' he')⟩)
    obtain ⟨rest, hrest, hmem⟩ := ih hnodup.2 hnew₁ hrest
    refine ⟨more ++ rest, by rw [hrest, hmore, List.append_assoc], fun e he => ?_⟩
    obtain he | he := List.mem_append.1 he
    · exact hkey e he ▸ List.mem_cons_self
    · exact List.mem_cons_of_mem _ (hmem e he)

/-! ## Subjects that add to others -/

/-- The second subject is that of a class `own` that inherits from the class of the first one and
speaks of new names only. Its instance has the attributes `added`, too, between those of the first
instance. -/
structure Adds (s t : Subject V) (own : ClassView V)
    (kept added placed : List (String × AttributeView)) : Prop where
  classes : ∃ inherited, t.classes = own :: inherited ∧
    inherited.map ClassView.shape = s.classes.map ClassView.shape
  before : s.attributes = kept ++ placed
  after : t.attributes = kept ++ (added ++ placed)
  nodup : (t.attributes.map (·.1)).Nodup
  new : ∀ name ∈ own.names ++ added.map (·.1), name ∉ s.names

/-- All that is read of what the second subject adds can be, with other events than `E`. -/
structure DocumentsNew (t : Subject V) (read : String → TypeExpr) (E : String → Bool)
    (own : ClassView V) (added : List (String × AttributeView)) : Prop where
  doc : ∀ text ∈ own.doc, (DocBlock.ofText read (Text.outdentText text)).NamesOther E
  members : ∀ e ∈ own.members, isPrivate e.1 = false → ∀ kind, t.memberKind? e.1 e.2 = some kind →
    t.Documents read E e.1 e.2.doc? kind
  attributes : ∀ e ∈ added, isPrivate e.1 = false → t.Documents read E e.1 none e.2.kind

namespace Adds

variable {own : ClassView V} {kept added placed : List (String × AttributeView)}

theorem findSome?_classes (h : s.Adds t own kept added placed) {α : Type}
    (f : ClassView Unit → Option α) (hown : f own.shape = none) :
    (t.classes.findSome? fun c => f c.shape) = s.classes.findSome? fun c => f c.shape := by
  obtain ⟨inherited, hclasses, hshapes⟩ := h.classes
  have hmap (cs : List (ClassView V)) :
      (cs.findSome? fun c => f c.shape) = (cs.map ClassView.shape).findSome? f :=
    List.findSome?_map.symm
  rw [hclasses, List.findSome?_cons, hown, hmap, hmap, hshapes]

/-- Of the names of the first subject, the second one says the same. -/
theorem agreeOn (h : s.Adds t own kept added placed) (hname : name ∈ s.names) :
    s.AgreeOn t name := by
  have hown : name ∉ own.names := fun hmem => h.new name (List.mem_append_left _ hmem) hname
  have hadded : name ∉ added.map (·.1) := fun hmem => h.new name (List.mem_append_right _ hmem) hname
  simp only [ClassView.names, List.mem_append, not_or] at hown
  obtain ⟨⟨⟨-, hannotations⟩, htable⟩, hnotes⟩ := hown
  constructor
  case entry =>
    have hfound : (t.classes.findSome? fun c => c.table.lookup name) =
        s.classes.findSome? fun c => c.table.lookup name :=
      h.findSome?_classes (fun c => c.table.lookup name) (Entries.lookup_eq_none_iff.2 htable)
    rw [tableEntry, tableEntry, hfound]
  case note =>
    exact h.findSome?_classes (fun c => c.notes.lookup name) (Entries.lookup_eq_none_iff.2 hnotes)
  case annotation =>
    exact h.findSome?_classes (fun c => c.annotations.lookup name)
      (Entries.lookup_eq_none_iff.2 hannotations)
  case held =>
    rw [Bool.eq_iff_iff, Entries.has_iff, Entries.has_iff, h.before, h.after]
    simp [hadded]

/-- The members of the second subject are the new ones, and behind them those of the first one. -/
theorem members (h : s.Adds t own kept added placed) :
    ∃ old, t.members = firstOfEach (own.members.filter fun (k, _) => !isPrivate k) ++ old ∧
      (old.map fun e => (e.1, e.2.shape)) = s.members.map fun e => (e.1, e.2.shape) := by
  obtain ⟨inherited, hclasses, hshapes⟩ := h.classes
  have hflat : (inherited.flatMap (·.members)).map (fun e => (e.1, e.2.shape)) =
      (s.classes.flatMap (·.members)).map fun e => (e.1, e.2.shape) := by
    have hmap (cs : List (ClassView V)) : (cs.flatMap (·.members)).map (fun e => (e.1, e.2.shape)) =
        (cs.map ClassView.shape).flatMap (·.members) := by
      rw [List.map_flatMap, List.flatMap_map]
      rfl
    rw [hmap, hmap, hshapes]
  have hpublic (es : List (String × MemberView V)) :
      (firstOfEach (es.filter fun (k, _) => !isPrivate k)).map (fun e => (e.1, e.2.shape)) =
        firstOfEach ((es.map fun e => (e.1, e.2.shape)).filter fun (k, _) => !isPrivate k) := by
    rw [List.filter_map, firstOfEach_map]
    rfl
  refine ⟨firstOfEach ((inherited.flatMap (·.members)).filter fun (k, _) => !isPrivate k), ?_, ?_⟩
  · rw [Subject.members, hclasses, List.flatMap_cons, List.filter_append]
    refine firstOfEach_append fun e he hmem => ?_
    have hown : e.1 ∈ own.names := by
      simp only [ClassView.names, List.mem_append]
      exact .inl (.inl (.inl (List.mem_map_of_mem (List.mem_filter.1 he).1)))
    refine h.new e.1 (List.mem_append_left _ hown) (List.mem_append_left _ ?_)
    have hnames := congrArg (List.map (·.1)) hflat
    simp only [List.map_map, Function.comp_def] at hnames
    rw [← hnames]
    exact (List.filter_sublist.map _).subset hmem
  · rw [hpublic, hflat, ← hpublic]
    rfl

/-- The events in the documentation of the classes are those of before. -/
theorem classEvents (h : s.Adds t own kept added placed)
    (hdoc : ∀ text ∈ own.doc, (DocBlock.ofText read (Text.outdentText text)).NamesOther E) :
    (t.classEvents read).filter (E ·.1) = (s.classEvents read).filter (E ·.1) := by
  obtain ⟨inherited, hclasses, hshapes⟩ := h.classes
  have hdocs : inherited.reverse.filterMap (·.doc) = s.classes.reverse.filterMap (·.doc) := by
    have hmap (cs : List (ClassView V)) : cs.reverse.filterMap (·.doc) =
        (cs.map ClassView.shape).reverse.filterMap (·.doc) := by
      rw [← List.map_reverse, List.filterMap_map]
      rfl
    rw [hmap, hmap, hshapes]
  rw [Subject.classEvents, hclasses, List.reverse_cons, List.filterMap_append, List.foldl_append,
    hdocs, ← Subject.classEvents]
  cases hown : own.doc with
  | none => simp [hown]
  | some text => simp [hown, (hdoc text hown).filter_addEvents]

end Adds

/-! ## Extraction -/

theorem mem_names_of_members {member : MemberView V} (h : (name, member) ∈ s.members) :
    name ∈ s.names := by
  have hmem := List.filter_sublist.subset ((firstOfEach_sublist _).subset h)
  exact List.mem_append_left _ (List.mem_map.2 ⟨_, hmem, rfl⟩)

theorem mem_names_of_extract (h : s.extract read = .ok md) {kind : MemberKind}
    (hname : name ∈ md.names kind) : name ∈ s.names := by
  obtain ⟨member, hmember, -⟩ | ⟨-, -, view, hview, -⟩ := (extract_names h).1 hname
  · exact mem_names_of_members hmember
  · exact List.mem_append_right _ (List.mem_map.2 ⟨_, hview, rfl⟩)

theorem addMembers_properties {members : List (String × MemberView V)}
    (h : members.foldlM (fun md (name, member) => s.addMember read md name member) md = .ok r) :
    r.properties = md.properties := by
  induction members generalizing md with
  | nil =>
    obtain rfl := Except.ok.inj h
    rfl
  | cons first members ih =>
    rw [List.foldlM_cons] at h
    obtain ⟨md₁, hfirst, hrest⟩ := bind_eq_ok_iff.1 h
    exact (ih hrest).trans (addMember_properties hfirst)

theorem addMembers_other {members : List (String × MemberView V)}
    (hmembers : ∀ e ∈ members, P e.1 = false ∧ ∀ kind, t.memberKind? e.1 e.2 = some kind →
      t.Documents read E e.1 e.2.doc? kind) (md : Metadata V) :
    ∃ r, members.foldlM (fun md (name, member) => t.addMember read md name member) md = .ok r ∧
      r.part P E = md.part P E :=
  foldlM_succeeds (R := fun md r : Metadata V => r.part P E = md.part P E) (fun _ => rfl)
    (fun h₁ h₂ => h₂.trans h₁)
    (fun e he md => addMember_other md (hmembers e he).1 (hmembers e he).2) md

theorem addMembers_same {members members' : List (String × MemberView V)}
    (hshapes : (members'.map fun e => (e.1, e.2.shape)) = members.map fun e => (e.1, e.2.shape))
    (hmembers : ∀ e ∈ members, P e.1 = true ∧ s.AgreeOn t e.1) (hmd : md'.part P E = md.part P E)
    (h : members.foldlM (fun md (name, member) => s.addMember read md name member) md = .ok r) :
    ∃ r', members'.foldlM (fun md (name, member) => t.addMember read md name member) md' = .ok r' ∧
      r'.part P E = r.part P E := by
  refine foldlM_follows (R := fun md' md : Metadata V => md'.part P E = md.part P E)
    hshapes ?_ hmd h
  rintro ⟨key, member⟩ he ⟨key', member'⟩ hshape md md' r hmd hfirst
  obtain ⟨rfl, hmember⟩ := Prod.mk.inj hshape
  obtain ⟨hkey, hagree⟩ := hmembers _ he
  exact addMember_same hkey hagree hmember hmd hfirst

theorem addAttributes_other {attributes : List (String × AttributeView)}
    (hattributes : ∀ e ∈ attributes, P e.1 = false ∧
      (isPrivate e.1 = false → t.Documents read E e.1 none e.2.kind)) (md : Metadata V) :
    ∃ r, attributes.foldlM (fun md (name, view) => t.addAttribute read md name view) md = .ok r ∧
      r.part P E = md.part P E :=
  foldlM_succeeds (R := fun md r : Metadata V => r.part P E = md.part P E) (fun _ => rfl)
    (fun h₁ h₂ => h₂.trans h₁)
    (fun e he md => addAttribute_other md e.2 (hattributes e he).1 (hattributes e he).2) md

theorem addAttributes_same {attributes : List (String × AttributeView)}
    (hattributes : ∀ e ∈ attributes, P e.1 = true ∧ s.AgreeOn t e.1)
    (hmd : md'.part P E = md.part P E)
    (h : attributes.foldlM (fun md (name, view) => s.addAttribute read md name view) md = .ok r) :
    ∃ r', attributes.foldlM (fun md (name, view) => t.addAttribute read md name view) md' = .ok r' ∧
      r'.part P E = r.part P E := by
  refine foldlM_follows (R := fun md' md : Metadata V => md'.part P E = md.part P E)
    (k := id) (l := id) rfl ?_ hmd h
  intro e he e' hsame md md' r hmd hfirst
  obtain rfl : e' = e := hsame
  exact addAttribute_same (hattributes e' he).1 (hattributes e' he).2 hmd hfirst

namespace Adds

variable {own : ClassView V} {kept added placed : List (String × AttributeView)}

/-- The members of the first subject are sorted as before, behind the new ones. -/
theorem addMembers (h : s.Adds t own kept added placed) (hP : ∀ name, P name = true ↔ name ∈ s.names)
    (hnew : t.DocumentsNew read E own added) {md₀ md₀' : Metadata V}
    (hmd : md₀'.part P E = md₀.part P E)
    (hs : s.members.foldlM (fun md (name, member) => s.addMember read md name member) md₀ = .ok r) :
    ∃ r', t.members.foldlM (fun md (name, member) => t.addMember read md name member) md₀' = .ok r' ∧
      r'.part P E = r.part P E := by
  obtain ⟨old, hmembers, hshapes⟩ := h.members
  have hfresh : ∀ e ∈ firstOfEach (own.members.filter fun (k, _) => !isPrivate k),
      P e.1 = false ∧ ∀ kind, t.memberKind? e.1 e.2 = some kind →
        t.Documents read E e.1 e.2.doc? kind := by
    intro e he
    obtain ⟨he, hpublic⟩ := List.mem_filter.1 ((firstOfEach_sublist _).subset he)
    have hname : e.1 ∈ own.names := by
      simp only [ClassView.names, List.mem_append]
      exact .inl (.inl (.inl (List.mem_map_of_mem he)))
    refine ⟨?_, hnew.members e he (by simpa using hpublic)⟩
    rw [← Bool.not_eq_true, hP]
    exact h.new e.1 (List.mem_append_left _ hname)
  have hold : ∀ e ∈ s.members, P e.1 = true ∧ s.AgreeOn t e.1 := by
    intro e he
    have hname : e.1 ∈ s.names := mem_names_of_members (show (e.1, e.2) ∈ s.members from he)
    exact ⟨(hP e.1).2 hname, h.agreeOn hname⟩
  obtain ⟨md₁, hrun, hpart⟩ := addMembers_other hfresh md₀'
  obtain ⟨r', hrun', hpart'⟩ := addMembers_same hshapes hold (hpart.trans hmd) hs
  refine ⟨r', ?_, hpart'⟩
  rw [hmembers, List.foldlM_append]
  exact bind_eq_ok_iff.2 ⟨md₁, hrun, hrun'⟩

/-- The attributes of the first subject are known as before, with the new ones among them. -/
theorem addAttributes (h : s.Adds t own kept added placed)
    (hP : ∀ name, P name = true ↔ name ∈ s.names) (hnew : t.DocumentsNew read E own added)
    (hmd : md'.part P E = md.part P E)
    (hs : s.attributes.foldlM (fun md (name, view) => s.addAttribute read md name view) md = .ok r) :
    ∃ r', t.attributes.foldlM (fun md (name, view) => t.addAttribute read md name view) md' = .ok r' ∧
      r'.part P E = r.part P E := by
  have hold : ∀ e ∈ kept ++ placed, P e.1 = true ∧ s.AgreeOn t e.1 := by
    intro e he
    have hname : e.1 ∈ s.names :=
      List.mem_append_right _ (List.mem_map_of_mem (h.before ▸ he))
    exact ⟨(hP e.1).2 hname, h.agreeOn hname⟩
  have hfresh : ∀ e ∈ added, P e.1 = false ∧
      (isPrivate e.1 = false → t.Documents read E e.1 none e.2.kind) := by
    intro e he
    refine ⟨?_, hnew.attributes e he⟩
    rw [← Bool.not_eq_true, hP]
    exact h.new e.1 (List.mem_append_right _ (List.mem_map_of_mem he))
  rw [h.before, List.foldlM_append] at hs
  obtain ⟨md₁, hkept, hplaced⟩ := bind_eq_ok_iff.1 hs
  obtain ⟨n₁, hrun₁, hpart₁⟩ :=
    addAttributes_same (fun e he => hold e (List.mem_append_left _ he)) hmd hkept
  obtain ⟨n₂, hrun₂, hpart₂⟩ := addAttributes_other hfresh n₁
  obtain ⟨n₃, hrun₃, hpart₃⟩ := addAttributes_same
    (fun e he => hold e (List.mem_append_right _ he)) (hpart₂.trans hpart₁) hplaced
  refine ⟨n₃, ?_, hpart₃⟩
  rw [h.after, List.foldlM_append]
  refine bind_eq_ok_iff.2 ⟨n₁, hrun₁, ?_⟩
  rw [List.foldlM_append]
  exact bind_eq_ok_iff.2 ⟨n₂, hrun₂, hrun₃⟩

/-- The properties of the second subject come in the order of its attributes. -/
theorem properties (h : s.Adds t own kept added placed) (ht : t.extract read = .ok md) :
    ∃ first more last, md.properties = first ++ (more ++ last) ∧
      (∀ e ∈ first, e.1 ∈ kept.map (·.1)) ∧ (∀ e ∈ more, e.1 ∈ added.map (·.1)) ∧
      ∀ e ∈ last, e.1 ∈ placed.map (·.1) := by
  obtain ⟨md₀, hmembers, hattributes⟩ := bind_eq_ok_iff.1 ht
  have hnone : md₀.properties = [] := addMembers_properties hmembers
  have hnodup := h.nodup
  rw [h.after, List.map_append, List.map_append] at hnodup
  rw [h.after, List.foldlM_append] at hattributes
  obtain ⟨md₁, hkept, hattributes⟩ := bind_eq_ok_iff.1 hattributes
  rw [List.foldlM_append] at hattributes
  obtain ⟨md₂, hadded, hplaced⟩ := bind_eq_ok_iff.1 hattributes
  obtain ⟨hnodupKept, hnodupRest, hapart⟩ := List.nodup_append.1 hnodup
  obtain ⟨hnodupAdded, hnodupPlaced, hapart'⟩ := List.nodup_append.1 hnodupRest
  obtain ⟨first, hfirst, hmemFirst⟩ :=
    addAttributes_properties hnodupKept (fun e he => by simp [hnone]) hkept
  rw [hnone, List.nil_append] at hfirst
  have hnewAdded : ∀ e ∈ added, e.1 ∉ md₁.properties.map (·.1) := by
    intro e he hmem
    rw [hfirst] at hmem
    obtain ⟨e', he', heq⟩ := List.mem_map.1 hmem
    exact hapart _ (hmemFirst e' he') _ (List.mem_append_left _ (List.mem_map_of_mem he)) heq
  obtain ⟨more, hmore, hmemMore⟩ := addAttributes_properties hnodupAdded hnewAdded hadded
  have hnewPlaced : ∀ e ∈ placed, e.1 ∉ md₂.properties.map (·.1) := by
    intro e he hmem
    rw [hmore, hfirst, List.map_append] at hmem
    obtain hmem | hmem := List.mem_append.1 hmem
    · obtain ⟨e', he', heq⟩ := List.mem_map.1 hmem
      exact hapart _ (hmemFirst e' he') _ (List.mem_append_right _ (List.mem_map_of_mem he)) heq
    · obtain ⟨e', he', heq⟩ := List.mem_map.1 hmem
      exact hapart' _ (hmemMore e' he') _ (List.mem_map_of_mem he) heq
  obtain ⟨last, hlast, hmemLast⟩ := addAttributes_properties hnodupPlaced hnewPlaced hplaced
  refine ⟨first, more, last, ?_, hmemFirst, hmemMore, hmemLast⟩
  rw [hlast, hmore, hfirst, List.append_assoc]

/-- What is known of the first subject is known of the second one. The new properties stand
between those of `kept` and those of `placed`. -/
theorem extract (h : s.Adds t own kept added placed) (hs : s.extract read = .ok md)
    (hnew : t.DocumentsNew read (Entries.has md.events) own added) :
    ∃ md', t.extract read = .ok md' ∧ md.IsKeptIn md' ∧ ∃ first more last,
      md.properties = first ++ last ∧ md'.properties = first ++ (more ++ last) ∧
      (∀ e ∈ first, e.1 ∈ kept.map (·.1)) ∧ (∀ e ∈ more, e.1 ∈ added.map (·.1)) ∧
      ∀ e ∈ last, e.1 ∈ placed.map (·.1) := by
  -- The invariant of both runs: they agree on the names `P` and on the events known before.
  let P : String → Bool := fun name => decide (name ∈ s.names)
  have hP (name : String) : P name = true ↔ name ∈ s.names := decide_eq_true_iff
  obtain ⟨md₁, hmembers, hattributes⟩ := bind_eq_ok_iff.1 hs
  let first (s : Subject V) : Metadata V := { Metadata.empty with events := s.classEvents read }
  have hevents : (first t).part P (Entries.has md.events) =
      (first s).part P (Entries.has md.events) := by
    simp only [first, Metadata.part, h.classEvents hnew.doc]
  obtain ⟨md₁', hmembers', hpart₁⟩ := h.addMembers hP hnew hevents hmembers
  obtain ⟨md', hattributes', hpart⟩ := h.addAttributes hP hnew hpart₁ hattributes
  have ht : t.extract read = .ok md' := bind_eq_ok_iff.2 ⟨md₁', hmembers', hattributes'⟩
  have hnames : ∀ kind, ∀ name ∈ md.names kind, P name = true := fun kind name hname =>
    (hP name).2 (mem_names_of_extract hs hname)
  refine ⟨md', ht, Metadata.isKeptIn_of_part hpart.symm hnames fun name => Entries.has_iff.2, ?_⟩
  obtain ⟨first, more, last, hproperties, hfirst, hmore, hlast⟩ := h.properties ht
  refine ⟨first, more, last, ?_, hproperties, hfirst, hmore, hlast⟩
  have hold : ∀ e ∈ first ++ last, P e.1 = true := by
    intro e he
    have hmem : e.1 ∈ (kept ++ placed).map (·.1) := by
      rw [List.map_append]
      exact (List.mem_append.1 he).elim (fun he => List.mem_append_left _ (hfirst e he))
        fun he => List.mem_append_right _ (hlast e he)
    exact (hP e.1).2 (List.mem_append_right _ (h.before ▸ hmem))
  have hfresh : ∀ e ∈ more, ¬ P e.1 = true := fun e he =>
    (hP e.1).not.2 (h.new e.1 (List.mem_append_right _ (hmore e he)))
  have hself : md.properties.filter (P ·.1) = md.properties :=
    List.filter_eq_self.2 fun e he => hnames .property e.1 (List.mem_map_of_mem he)
  have hfiltered := congrArg Metadata.properties hpart
  simp only [Metadata.part] at hfiltered
  rw [hself, hproperties, List.filter_append, List.filter_append, List.filter_eq_nil_iff.2 hfresh,
    List.nil_append, ← List.filter_append, List.filter_eq_self.2 hold] at hfiltered
  exact hfiltered.symm

end Adds

end Subject

end SceneBridge
