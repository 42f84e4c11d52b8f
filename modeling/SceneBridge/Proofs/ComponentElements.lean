import SceneBridge.Proofs.ComponentWorld

/-!
# Elements as they are made

The code of a class comes first when an element is made of its definition. The element is then
told from everything that was made before, and has the attributes that were asked for. Elements
that are there stay as they are, whatever else is asked for.
-/

namespace SceneBridge.ComponentWorld

open Possibly

variable {C : Type}

/-! ## Elements that are there -/

/-- Elements that are there stay as they are. -/
structure LeavesElements (w t : ComponentWorld C) : Prop where
  made : w.made ≤ t.made
  attributes : ∀ n < w.made, t.attributes n = w.attributes n

theorem leavesElements_isStep : IsStep (LeavesElements (C := C)) where
  refl w := ⟨Nat.le_refl _, fun _ _ => rfl⟩
  trans h₁ h₂ := by
    refine ⟨Nat.le_trans h₁.made h₂.made, fun n hn => ?_⟩
    exact (h₂.attributes n (Nat.lt_of_lt_of_le hn h₁.made)).trans (h₁.attributes n hn)

/-- Neither the table nor the elements that are there change. -/
structure StepsAside (w t : ComponentWorld C) : Prop where
  table : t.table = w.table
  elements : LeavesElements w t

theorem StepsAside.of_same {w t : ComponentWorld C} (htable : t.table = w.table)
    (hmade : w.made ≤ t.made) (hattributes : t.attributes = w.attributes) : StepsAside w t :=
  ⟨htable, hmade, fun n _ => congrFun hattributes n⟩

section Advances

variable [BEq C] {name : C → String} {code : Possibly (ComponentWorld C) Unit}
  {R : ComponentWorld C → ComponentWorld C → Prop} (hR : IsStep R)
  (haside : ∀ {w t}, StepsAside w t → R w t)

include hR haside

omit [BEq C] in
theorem numbered_advances {α : Type} (make : Nat → α) : Advances R (numbered make) := by
  refine .bind hR (.read hR _) fun _ => .bind hR (.change fun w => ?_) fun _ => .pure hR _
  exact haside (.of_same rfl (Nat.le_succ _) rfl)

theorem metadataFor_advances (hcode : Advances R code) (c : C) :
    Advances R (metadataFor name code c) := by
  have hmodify (f : MetadataCache C (ForClass C) → MetadataCache C (ForClass C)) :
      Advances R ((cell cache fun cache w => { w with cache }).modify f) := by
    rw [cell_modify]
    exact .change fun w => haside (.of_same rfl (Nat.le_refl _) rfl)
  refine .bind hR (.read hR _) fun cached => ?_
  cases cached.entries.lookup c with
  | some md => exact .pure hR md
  | none =>
    refine .bind hR (.tryCatch hR (.anything hcode) fun fault =>
      .bind hR (.pure hR _) fun _ => .throw hR _) fun _ => ?_
    refine .bind hR (hmodify _) fun _ => ?_
    refine .bind hR (.bind hR (.anything hcode) fun _ => numbered_advances hR haside _) fun _ => ?_
    exact .bind hR (hmodify _) fun _ => .pure hR _

theorem build_advances (hcode : Advances R code) (c : C) :
    Advances R ((factory name code).build c) := by
  refine .bind hR (.read hR _) fun known => ?_
  cases known.lookup c with
  | some d => exact .pure hR d
  | none =>
    refine .bind hR (metadataFor_advances hR haside hcode c) fun md => ?_
    refine .bind hR (numbered_advances hR haside _) fun d => ?_
    refine .bind hR ?_ fun _ => .pure hR d
    change Advances _ ((cell definitions fun definitions w => { w with definitions }).modify _)
    rw [cell_modify]
    exact .change fun w => haside (.of_same rfl (Nat.le_refl _) rfl)

omit [BEq C] haside in
theorem get_advances (tag : Datum) : Advances R (ComponentKind.get components tag) := by
  refine .bind hR (.read hR _) fun table => ?_
  cases table.get tag with
  | ok component => exact .pure hR component
  | error fault => exact .throw hR fault

end Advances

/-! ## The making of an element -/

/-- The attributes that given values make. -/
def textsOf (attributes : List (String × Datum)) : List (String × String) :=
  Entries.putAll [] (attributes.map fun (name, value) => (Text.smallText name, value.plain))

/-- The next element after `u` is there, with the given attributes. -/
structure HasNext (u : ComponentWorld C) (texts : List (String × String))
    (t : ComponentWorld C) : Prop where
  made : u.made < t.made
  texts : t.attributes u.made = texts
  others : ∀ n < u.made, t.attributes n = u.attributes n

/-- An element of a definition was made from `w` on, when the code of its class had left `u`, and is
there in `t`. -/
structure IsMade (code : Possibly (ComponentWorld C) Unit) (w : ComponentWorld C)
    (d : ForClass C) (attributes : List (String × Datum)) (element : ElementOf C)
    (u t : ComponentWorld C) : Prop extends HasNext u (textsOf attributes) t where
  /-- The code of the class comes first. -/
  ran : ∃ outcome, code w (outcome, u)
  definition : element.definition = d
  /-- The element is none of the objects that were there. -/
  number : element.number = u.made
  written : ∀ p ∈ attributes, p.2.isWritable = true

namespace HasNext

variable {u s t : ComponentWorld C} {texts : List (String × String)}

theorem withElement (u : ComponentWorld C) (texts : List (String × String)) :
    HasNext u texts (u.withElement texts) where
  made := Nat.lt_succ_self _
  texts := Function.update_self ..
  others _ hn := Function.update_of_ne (Nat.ne_of_lt hn) ..

theorem leavesElements (h : HasNext u texts t) : LeavesElements u t :=
  ⟨Nat.le_of_lt h.made, h.others⟩

theorem trans (h : HasNext u texts s) (hst : LeavesElements s t) : HasNext u texts t where
  made := Nat.lt_of_lt_of_le h.made hst.made
  texts := (hst.attributes _ h.made).trans h.texts
  others n hn := (hst.attributes n (Nat.lt_trans hn h.made)).trans (h.others n hn)

theorem withAttribute (h : HasNext u texts t) (attr text : String) :
    HasNext u (Entries.put texts attr text) (t.withAttribute u.made attr text) where
  made := h.made
  texts := (Function.update_self ..).trans (by rw [h.texts])
  others n hn := (Function.update_of_ne (Nat.ne_of_lt hn) ..).trans (h.others n hn)

end HasNext

section Making

variable {code : Possibly (ComponentWorld C) Unit} {u s t w : ComponentWorld C}
  {texts : List (String × String)} {element : ElementOf C}

theorem newElement_cases {d : ForClass C} {outcome : Except Fault (ElementOf C)}
    (hrun : newElement code d w (outcome, t)) :
    (∃ fault inner, outcome = .error fault ∧ code w (inner, t)) ∨
      ∃ u inner, outcome = .ok ⟨u.made, d⟩ ∧ t = u.withElement [] ∧ code w (inner, u) := by
  obtain ⟨fault, rfl, inner, hclass⟩ | ⟨_, u, ⟨inner, hclass⟩, hrest⟩ := bind_cases hrun
  · exact .inl ⟨fault, inner, rfl, hclass⟩
  · have hrest := read_bind.1 hrest
    obtain ⟨rfl, rfl⟩ := Prod.mk.inj (change_bind.1 hrest)
    exact .inr ⟨u, inner, rfl, rfl, hclass⟩

/-- However it ends, the setting of an attribute leaves the element with attributes, and where it
returns, with the text of the value. -/
theorem setAttribute_hasNext (hcode : Advances LeavesElements code)
    (hnumber : element.number = u.made) (hs : HasNext u texts s) {name : String} {value : Datum}
    {outcome : Except Fault Unit} (hrun : setAttribute code element name value s (outcome, t)) :
    ∃ more, HasNext u more t ∧ (outcome = .ok () → value.isWritable = true ∧
      more = Entries.put texts (Text.smallText name) value.plain) := by
  rw [setAttribute] at hrun
  split at hrun
  case isFalse =>
    obtain ⟨rfl, rfl⟩ := Prod.mk.inj hrun
    exact ⟨texts, hs, nofun⟩
  case isTrue hwritable =>
    have hrun := change_bind.1 hrun
    have hstored := hs.withAttribute (Text.smallText name) value.plain
    rw [hnumber] at hrun
    have hrest : LeavesElements _ t :=
      Advances.ite (fun _ => hcode.anything) (fun _ => .pure leavesElements_isStep ()) _ _ _ hrun
    exact ⟨_, hstored.trans hrest, fun _ => ⟨hwritable, rfl⟩⟩

theorem setAttributes_hasNext (hcode : Advances LeavesElements code)
    (hnumber : element.number = u.made) {attributes : List (String × Datum)}
    {outcome : Except Fault PUnit} (hs : HasNext u texts s)
    (hrun : (attributes.forM (fun (name, value) => setAttribute code element name value) :
      Possibly (ComponentWorld C) PUnit) s (outcome, t)) :
    ∃ more, HasNext u more t ∧ (outcome = .ok ⟨⟩ → (∀ p ∈ attributes, p.2.isWritable = true) ∧
      more = Entries.putAll texts
        (attributes.map fun (name, value) => (Text.smallText name, value.plain))) := by
  induction attributes generalizing s texts with
  | nil =>
    obtain ⟨rfl, rfl⟩ := Prod.mk.inj hrun
    exact ⟨texts, hs, fun _ => ⟨nofun, rfl⟩⟩
  | cons p rest ih =>
    obtain ⟨fault, rfl, hfails⟩ | ⟨_, v, hset, hrest⟩ := bind_cases hrun
    · obtain ⟨more, hmore, -⟩ := setAttribute_hasNext hcode hnumber hs hfails
      exact ⟨more, hmore, nofun⟩
    · obtain ⟨_, hv, hstored⟩ := setAttribute_hasNext hcode hnumber hs hset
      obtain ⟨hwritable, rfl⟩ := hstored rfl
      obtain ⟨more, hmore, hall⟩ := ih hv hrest
      refine ⟨more, hmore, fun hok => ?_⟩
      obtain ⟨hwritten, rfl⟩ := hall hok
      exact ⟨List.forall_mem_cons.2 ⟨hwritable, hwritten⟩, rfl⟩

/-- However it ends, the making of an element leaves those that are there alone; what it returns is
a new element with the given attributes. -/
theorem create_isMade (hcode : Advances LeavesElements code) {attributes : List (String × Datum)}
    {d : ForClass C} {outcome : Except Fault (ElementOf C)}
    (hrun : create code attributes d w (outcome, t)) :
    LeavesElements w t ∧
      ∀ element, outcome = .ok element → ∃ u, IsMade code w d attributes element u t := by
  obtain ⟨fault, rfl, hfails⟩ | ⟨element, v, hmade, hrest⟩ := bind_cases hrun
  · obtain ⟨_, inner, -, hclass⟩ | ⟨_, _, hok, -⟩ := newElement_cases hfails
    · exact ⟨hcode _ _ _ hclass, nofun⟩
    · cases hok
  obtain ⟨_, _, herror, -⟩ | ⟨u, inner, hok, rfl, hclass⟩ := newElement_cases hmade
  · cases herror
  cases hok
  have hu : LeavesElements w u := hcode _ _ _ hclass
  have hnext := HasNext.withElement u []
  obtain ⟨fault, rfl, hfails⟩ | ⟨_, x, hset, hpure⟩ := bind_cases hrest
  · obtain ⟨more, hmore, -⟩ := setAttributes_hasNext hcode rfl hnext hfails
    exact ⟨leavesElements_isStep.trans hu hmore.leavesElements, nofun⟩
  · obtain ⟨rfl, rfl⟩ := Prod.mk.inj hpure
    obtain ⟨_, hmore, hall⟩ := setAttributes_hasNext hcode rfl hnext hset
    obtain ⟨hwritten, rfl⟩ := hall rfl
    refine ⟨leavesElements_isStep.trans hu hmore.leavesElements, fun element helement => ?_⟩
    cases helement
    exact ⟨u, hmore, ⟨inner, hclass⟩, rfl, rfl, hwritten⟩

theorem withAttribute_withElement (attr text : String) :
    (u.withElement texts).withAttribute u.made attr text =
      u.withElement (Entries.put texts attr text) := by
  have hself : (u.withElement texts).attributes u.made = texts := Function.update_self ..
  rw [ComponentWorld.withAttribute, hself]
  exact congrArg (fun attributes => { u with made := u.made + 1, attributes })
    (Function.update_idem ..)

/-- Where code may do nothing, all attributes that can be written are set. -/
theorem setAttributes_returns (hidle : ∀ s, ∃ outcome, code s (outcome, s)) (d : ForClass C)
    {attributes : List (String × Datum)} (hwritten : ∀ p ∈ attributes, p.2.isWritable = true) :
    (attributes.forM (fun (name, value) => setAttribute code ⟨u.made, d⟩ name value) :
      Possibly (ComponentWorld C) PUnit) (u.withElement texts)
      (.ok ⟨⟩, u.withElement (Entries.putAll texts
        (attributes.map fun (name, value) => (Text.smallText name, value.plain)))) := by
  induction attributes generalizing texts with
  | nil => rfl
  | cons p rest ih =>
    obtain ⟨hp, hrest⟩ := List.forall_mem_cons.1 hwritten
    refine ⟨.ok (), u.withElement (Entries.put texts (Text.smallText p.1) p.2.plain), ?_, ih hrest⟩
    change setAttribute code _ p.1 p.2 _ _
    rw [setAttribute, if_pos hp]
    refine change_bind.2 ?_
    rw [withAttribute_withElement]
    split
    · exact hidle _
    · rfl

/-- Where code may do nothing, an element may be made with all attributes that can be written. -/
theorem create_returns (hidle : ∀ s, ∃ outcome, code s (outcome, s)) (d : ForClass C)
    {attributes : List (String × Datum)} (hwritten : ∀ p ∈ attributes, p.2.isWritable = true)
    {outcome : Except Fault Unit} (hrun : code w (outcome, u)) :
    create code attributes d w (.ok ⟨u.made, d⟩, u.withElement (textsOf attributes)) := by
  have hmade : newElement code d w (.ok ⟨u.made, d⟩, u.withElement []) :=
    ⟨.ok (), u, ⟨outcome, hrun⟩, read_bind.2 (change_bind.2 rfl)⟩
  exact ⟨_, _, hmade, .ok ⟨⟩, _, setAttributes_returns hidle d hwritten, rfl⟩

end Making

/-! ## Elements among all that is asked for -/

section Asked

variable [BEq C] {name : C → String} {code : Possibly (ComponentWorld C) Unit}

omit [BEq C] in
theorem register_leavesElements (tag : Datum) (new : Component C) :
    Advances LeavesElements (ComponentKind.register components tag new) := by
  refine .bind leavesElements_isStep (.read leavesElements_isStep _) fun table => ?_
  cases table.add (fun _ => true) tag new with
  | ok table => exact .change fun w => ⟨Nat.le_refl _, fun _ _ => rfl⟩
  | error fault => exact .throw leavesElements_isStep fault

theorem defineAt_leavesElements (hcode : Advances LeavesElements code) (tag : Datum) (c : C) :
    Advances LeavesElements ((kind name code).define components tag c) := by
  have hstep := leavesElements_isStep (C := C)
  refine .bind hstep (.read hstep _) fun table => ?_
  cases table.lookup? tag with
  | some old =>
    refine .bind hstep (.pure hstep _) fun target => .ite (fun _ => .pure hstep old) fun _ => ?_
    exact .bind hstep (.pure hstep _) fun _ => .throw hstep _
  | none =>
    refine .bind hstep (build_advances hstep (·.elements) hcode c) fun d => ?_
    refine .bind hstep (numbered_advances hstep (·.elements) _) fun new => ?_
    exact .bind hstep (register_leavesElements tag new) fun _ => .pure hstep new

/-- Elements that are there stay as they are if they are left alone by the code of the classes. -/
theorem Operation.run_leavesElements (hcode : Advances LeavesElements code) (op : Operation C) :
    Advances LeavesElements (op.run name code) := by
  have hstep := leavesElements_isStep (C := C)
  cases op with
  | define tag? c =>
    refine .bind hstep (fun w outcome t hrun => ?_) fun _ => .pure hstep _
    exact defineAt_leavesElements hcode _ c w outcome t (define_iff.1 hrun)
  | setStart start => exact .change fun w => ⟨Nat.le_refl _, fun _ _ => rfl⟩
  | clear => exact .change fun w => ⟨Nat.le_refl _, fun _ _ => rfl⟩
  | get tag => exact .bind hstep (get_advances hstep tag) fun _ => .pure hstep _
  | tags =>
    refine .bind hstep (fun w outcome t hrun => ?_) fun _ => .pure hstep _
    cases (tags_ends name code w _).1 hrun
    exact hstep.refl w
  | createElement tag attributes =>
    refine .bind hstep (.bind hstep (get_advances hstep tag) fun component =>
      .bind hstep (.pure hstep _) fun d w outcome t hrun => ?_) fun _ => .pure hstep _
    exact (create_isMade hcode hrun).1
  | build c =>
    exact .bind hstep (build_advances hstep (·.elements) hcode c) fun _ => .pure hstep _
  | forget => exact .change fun w => ⟨Nat.le_refl _, fun _ _ => rfl⟩

/-- All that the code of the classes may do leaves the elements that are there alone. -/
theorem behave_leavesElements (name : C → String) (asked : Operation C → Prop) (depth : Nat) :
    Advances LeavesElements (behave name asked depth) := by
  have hstep := leavesElements_isStep (C := C)
  induction depth with
  | zero => exact .pure hstep ()
  | succ n ih => exact .often hstep (.choose fun op => op.1.run_leavesElements ih)

end Asked

end SceneBridge.ComponentWorld
