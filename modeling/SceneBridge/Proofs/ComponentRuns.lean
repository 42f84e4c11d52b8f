import Mathlib.Data.List.Nodup
import SceneBridge.Proofs.ComponentElements

/-!
# What tags stand for

A component stands for every spelling of its tag until the table is cleared: it is returned for
the tag, elements are made of its definition, its class gets it again, and other classes are
refused. What fails leaves the table as it was, and all tags are listed once, in order.
-/

namespace SceneBridge.ComponentWorld

open Possibly

variable {C : Type} [BEq C]

/-! ## The component of a tag -/

/-- All spellings of the tag stand for the component, whatever the code of the classes does. -/
structure StandsFor (name : C → String) (w : ComponentWorld C) (tag : Datum)
    (component : Component C) : Prop where
  get : ∀ {spelling}, Registry.keyOfDatum spelling = Registry.keyOfDatum tag →
    Ends (ComponentKind.get components spelling) w component w
  /-- An element by tag is made as one of the definition is. -/
  createElement : ∀ {spelling}, Registry.keyOfDatum spelling = Registry.keyOfDatum tag →
    ∀ code attributes e, ComponentWorld.createElement name code spelling attributes w e ↔
      create code attributes component.definition w e
  element_target : ∀ {spelling}, Registry.keyOfDatum spelling = Registry.keyOfDatum tag →
    ∀ {code attributes element t},
      ComponentWorld.createElement name code spelling attributes w (.ok element, t) →
      element.definition.target = component.definition.target
  /-- An element by tag is a new one with the given attributes, made once the code of the class has
  run. -/
  element_made : ∀ {spelling}, Registry.keyOfDatum spelling = Registry.keyOfDatum tag →
    ∀ {code attributes element t}, Advances LeavesElements code →
      ComponentWorld.createElement name code spelling attributes w (.ok element, t) →
      ∃ u, IsMade code w component.definition attributes element u t
  /-- An element by tag may be had, if the code of the class may leave it at that. -/
  element_returns : ∀ {spelling}, Registry.keyOfDatum spelling = Registry.keyOfDatum tag →
    ∀ {code attributes outcome u}, (∀ s, ∃ outcome, code s (outcome, s)) →
      (∀ p ∈ attributes, p.2.isWritable = true) → code w (outcome, u) →
      ComponentWorld.createElement name code spelling attributes w
        (.ok ⟨u.made, component.definition⟩, u.withElement (textsOf attributes))
  /-- The class of the component gets it again. -/
  again : ∀ {tag?}, Registry.keyOfDatum (tagFor name w tag? component.definition.target) =
      Registry.keyOfDatum tag →
    ∀ code, Ends (define name code tag? component.definition.target) w component w
  /-- For other classes the tag is a bad value. -/
  refused : ∀ {tag? c}, Registry.keyOfDatum (tagFor name w tag? c) = Registry.keyOfDatum tag →
    component.definition.target ≠ c →
    ∀ code, ∃ fault : Fault, fault.kind = .value ∧ Breaks (define name code tag? c) w fault w

section Tag

variable {name : C → String} {code : Possibly (ComponentWorld C) Unit} {w : ComponentWorld C}
  {tag : Datum} {component : Component C}

omit [BEq C] in
theorem get_ends (hfound : w.table.lookup? tag = some component) :
    Ends (ComponentKind.get components tag) w component w := by
  refine .bind (.read _ w) ?_
  rw [Registry.get_of_lookup? hfound]
  exact .pure _ w

/-- An element by tag is one of the definition of the component. -/
theorem createElement_iff (hfound : w.table.lookup? tag = some component)
    {attributes : List (String × Datum)} {e : Except Fault (ElementOf C) × ComponentWorld C} :
    createElement name code tag attributes w e ↔
      create code attributes component.definition w e :=
  (get_ends hfound).bind_iff.trans (Ends.pure _ w).bind_iff

omit [BEq C] in
theorem definition_of_create {attributes : List (String × Datum)} {d : ForClass C}
    {element : ElementOf C} {t : ComponentWorld C}
    (hrun : create code attributes d w (.ok element, t)) : element.definition = d := by
  obtain ⟨_, _, hmade, hrest⟩ := bind_ok hrun
  obtain ⟨_, _, -, hpure⟩ := bind_ok hrest
  obtain ⟨_, _, herror, -⟩ | ⟨_, _, hok, -, -⟩ := newElement_cases hmade
  · cases herror
  · cases hok
    cases hpure
    rfl

theorem standsFor_of_lookup? [LawfulBEq C] (hfound : w.table.lookup? tag = some component) :
    w.StandsFor name tag component := by
  have hspelling {spelling : Datum} (h : Registry.keyOfDatum spelling = Registry.keyOfDatum tag) :
      w.table.lookup? spelling = some component := (Registry.lookup?_congr h).trans hfound
  constructor
  case get =>
    intro spelling h
    exact get_ends (hspelling h)
  case createElement =>
    intro spelling h code attributes e
    exact createElement_iff (hspelling h)
  case element_target =>
    intro spelling h code attributes element t hrun
    rw [definition_of_create ((createElement_iff (hspelling h)).1 hrun)]
  case element_made =>
    intro spelling h code attributes element t hcode hrun
    exact (create_isMade hcode ((createElement_iff (hspelling h)).1 hrun)).2 element rfl
  case element_returns =>
    intro spelling h code attributes outcome u hidle hwritten hrun
    exact (createElement_iff (hspelling h)).2 (create_returns hidle _ hwritten hrun)
  case again =>
    intro tag? h code e
    exact define_iff.trans (defineAt_same (hspelling h) e)
  case refused =>
    intro tag? c h hc code
    exact ⟨_, rfl, fun e => define_iff.trans (defineAt_other (hspelling h) hc e)⟩

end Tag

/-! ## Calls that fail -/

section Failing

variable {name : C → String} {code : Possibly (ComponentWorld C) Unit}
  {R : Registry (Component C) → Registry (Component C) → Prop}

omit [BEq C] in
theorem onTable_isStep (hR : IsStep R) : IsStep fun w t : ComponentWorld C => R w.table t.table where
  refl w := hR.refl w.table
  trans := hR.trans

omit [BEq C] in
/-- What does not change the table is a step of it. -/
theorem StepsAside.of_table (hR : IsStep R) {w t : ComponentWorld C} (h : StepsAside w t) :
    R w.table t.table :=
  h.table ▸ hR.refl w.table

omit [BEq C] in
theorem create_leavesTable (hR : IsStep R) (hcode : Advances (fun w t => R w.table t.table) code)
    (attributes : List (String × Datum)) (d : ForClass C) :
    Advances (fun w t => R w.table t.table) (create code attributes d) := by
  have hstep := onTable_isStep hR
  have hset (element : ElementOf C) (name : String) (value : Datum) :
      Advances (fun w t => R w.table t.table) (setAttribute code element name value) := by
    refine .ite (fun _ => .bind hstep (.change fun w => hR.refl w.table) fun _ => ?_) fun _ => ?_
    · exact .ite (fun _ => .anything hcode) fun _ => .pure hstep _
    · exact .throw hstep _
  refine .bind hstep (.bind hstep (.anything hcode) fun _ => .bind hstep (.read hstep _) fun _ =>
    .bind hstep (.change fun w => hR.refl w.table) fun _ => .pure hstep _) fun element => ?_
  exact .bind hstep (.forM hstep fun _ _ => hset element _ _) fun _ => .pure hstep _

theorem createElement_leavesTable (hR : IsStep R)
    (hcode : Advances (fun w t => R w.table t.table) code) (tag : Datum)
    (attributes : List (String × Datum)) :
    Advances (fun w t => R w.table t.table) (createElement name code tag attributes) := by
  have hstep := onTable_isStep hR
  exact .bind hstep (get_advances hstep tag) fun _ =>
    .bind hstep (.pure hstep _) fun d => create_leavesTable hR hcode attributes d

omit [BEq C] in
/-- A component that is refused changes nothing. -/
theorem register_fails {tag : Datum} {new : Component C} {fault : Fault} {w t : ComponentWorld C}
    (hrun : ComponentKind.register components tag new w (.error fault, t)) : t = w := by
  have hrun := read_bind.1 hrun
  cases hadd : w.table.add (fun _ => true) tag new with
  | ok table =>
    rw [hadd] at hrun
    cases hrun
  | error fault =>
    rw [hadd] at hrun
    exact (Prod.mk.inj hrun).2

/-- A definition that fails does to the table no more than the code it calls. -/
theorem define_fails [LawfulBEq C] (hR : IsStep R)
    (hcode : Advances (fun w t => R w.table t.table) code) {tag? : Option Datum} {c : C}
    {fault : Fault} {w t : ComponentWorld C}
    (hrun : define name code tag? c w (.error fault, t)) : R w.table t.table := by
  have hrun := define_iff.1 hrun
  cases hfound : w.table.lookup? (tagFor name w tag? c) with
  | some old =>
    by_cases hc : old.definition.target = c
    · subst hc
      cases ((defineAt_same hfound) _).1 hrun
    · cases ((defineAt_other hfound hc) _).1 hrun
      exact hR.refl _
  | none =>
    have hrun := read_bind.1 hrun
    rw [hfound] at hrun
    obtain ⟨_, -, hbuild⟩ | ⟨d, u, hbuild, hrun⟩ := bind_cases hrun
    · exact build_advances (onTable_isStep hR) (StepsAside.of_table hR) hcode c _ _ _ hbuild
    · have hu := build_advances (onTable_isStep hR) (StepsAside.of_table hR) hcode c _ _ _ hbuild
      have hnumbered {α : Type} (make : Nat → α) :=
        numbered_advances (onTable_isStep hR) (StepsAside.of_table hR) make
      obtain ⟨_, -, hmake⟩ | ⟨new, v, hmake, hrun⟩ := bind_cases hrun
      · exact hR.trans hu (hnumbered _ _ _ _ hmake)
      · have hv := hR.trans hu (hnumbered _ _ _ _ hmake)
        obtain ⟨_, -, hregister⟩ | ⟨_, x, -, hpure⟩ := bind_cases hrun
        · exact register_fails hregister ▸ hv
        · cases hpure

/-- What is asked for and fails does to the table no more than the code it calls. -/
theorem Operation.run_fails [LawfulBEq C] (hR : IsStep R)
    (hcode : Advances (fun w t => R w.table t.table) code) {op : Operation C} {fault : Fault}
    {w t : ComponentWorld C} (hrun : op.run name code w (.error fault, t)) : R w.table t.table := by
  cases op with
  | define tag? c =>
    obtain ⟨_, -, hdefine⟩ | ⟨_, _, -, hpure⟩ := bind_cases hrun
    · exact define_fails hR hcode hdefine
    · cases hpure
  | createElement tag attributes =>
    obtain ⟨_, -, hcreate⟩ | ⟨_, _, -, hpure⟩ := bind_cases hrun
    · exact createElement_leavesTable hR hcode tag attributes _ _ _ hcreate
    · cases hpure
  | build c =>
    obtain ⟨_, -, hbuild⟩ | ⟨_, _, -, hpure⟩ := bind_cases hrun
    · exact build_advances (onTable_isStep hR) (StepsAside.of_table hR) hcode c _ _ _ hbuild
    · cases hpure
  | get tag =>
    obtain ⟨_, -, hget⟩ | ⟨_, _, -, hpure⟩ := bind_cases hrun
    · exact get_advances (onTable_isStep hR) tag _ _ _ hget
    · cases hpure
  | tags =>
    have hends := (tags_ends name code w).bind_iff.1 hrun
    cases hends
  | setStart start => cases hrun
  | clear => cases hrun
  | forget => cases hrun

end Failing

/-! ## Tags -/

omit [BEq C] in
theorem sorted_tags (w : ComponentWorld C) : w.tagTexts.mergeSort.Pairwise (· ≤ ·) := by
  have hsorted : w.tagTexts.mergeSort.Pairwise fun s t => decide (s ≤ t) := by
    refine List.pairwise_mergeSort (fun _ _ _ h₁ h₂ => ?_) (fun s t => ?_) _
    · exact decide_eq_true (String.le_trans (of_decide_eq_true h₁) (of_decide_eq_true h₂))
    · simpa using String.le_total s t
  exact hsorted.imp of_decide_eq_true

/-- Tags with different keys are different. -/
theorem IsSound.nodup_tagTexts {w : ComponentWorld C} (hw : w.IsSound) : w.tagTexts.Nodup := by
  have hkeys : w.tagTexts.map (fun s => Registry.keyOfDatum (.text s)) =
      (w.table.entries.map (·.1)).map .ok := by
    rw [tagTexts, Registry.values, List.map_map, List.map_map, List.map_map]
    refine List.map_congr_left fun e he => ?_
    have hkey := hw.tagged he
    simp only [Function.comp_apply]
    rw [Registry.plain_of_keyOfDatum hkey, hkey]
  refine List.Nodup.of_map (fun s => Registry.keyOfDatum (.text s)) ?_
  rw [hkeys]
  exact hw.nodup.map fun _ _ h => Except.ok.inj h

/-! ## Calls that return -/

section Returning

variable (name : C → String) {code : Possibly (ComponentWorld C) Unit} {w : ComponentWorld C}

/-- The computation may return and leave the table alone. -/
def MayReturn {α : Type} (x : Possibly (ComponentWorld C) α) (w : ComponentWorld C) : Prop :=
  ∃ a t, x w (.ok a, t) ∧ t.table = w.table ∧ t.clears = w.clears

omit [BEq C] in
theorem MayReturn.bind {α β : Type} {x : Possibly (ComponentWorld C) α}
    {f : α → Possibly (ComponentWorld C) β} (hx : MayReturn x w) (hf : ∀ a t, MayReturn (f a) t) :
    MayReturn (x >>= f) w := by
  obtain ⟨a, t, hrun, htable, hclears⟩ := hx
  obtain ⟨b, u, hrest, htable', hclears'⟩ := hf a t
  exact ⟨b, u, ⟨.ok a, t, hrun, hrest⟩, htable'.trans htable, hclears'.trans hclears⟩

omit [BEq C] in
theorem MayReturn.of_ends {α : Type} {x : Possibly (ComponentWorld C) α} {a : α}
    {t : ComponentWorld C} (hx : Ends x w a t) (htable : t.table = w.table)
    (hclears : t.clears = w.clears) : MayReturn x w :=
  ⟨a, t, (hx _).2 rfl, htable, hclears⟩

/-- Where the code may do nothing, every class may have a definition. -/
theorem build_mayReturn (w : ComponentWorld C) (hcode : ∀ s, code s (.ok (), s)) (c : C) :
    MayReturn ((factory name code).build c) w := by
  have hanything {α : Type} (a : α) (s : ComponentWorld C) :
      MayReturn (anything code : Possibly (ComponentWorld C) α) s :=
    ⟨a, s, ⟨.ok (), hcode s⟩, rfl, rfl⟩
  have hnumbered {α : Type} (make : Nat → α) (s : ComponentWorld C) : MayReturn (numbered make) s :=
    .of_ends (numbered_ends make s) rfl rfl
  have hmetadata (s : ComponentWorld C) : MayReturn (metadataFor name code c) s := by
    refine .bind (.of_ends (.read _ s) rfl rfl) fun cached t => ?_
    cases cached.entries.lookup c with
    | some md => exact .of_ends (.pure md t) rfl rfl
    | none =>
      refine .bind ⟨(), t, ⟨.ok (), t, ⟨.ok (), hcode t⟩, rfl⟩, rfl, rfl⟩ fun _ t => ?_
      refine .bind (.of_ends (.modify _ _ _ t) rfl rfl) fun _ t => ?_
      refine .bind (.bind (hanything [] t) fun _ => hnumbered _) fun md t => ?_
      exact .bind (.of_ends (.modify _ _ _ t) rfl rfl) fun _ t => .of_ends (.pure md t) rfl rfl
  refine .bind (.of_ends (.read _ w) rfl rfl) fun known t => ?_
  cases known.lookup c with
  | some d => exact .of_ends (.pure d t) rfl rfl
  | none =>
    refine .bind (hmetadata t) fun md t => .bind (hnumbered _ t) fun d t => ?_
    exact .bind (.of_ends (.modify _ _ _ t) rfl rfl) fun _ t => .of_ends (.pure d t) rfl rfl

omit [BEq C] in
theorem register_ends {tag : Datum} {key : String} (hkey : Registry.keyOfDatum tag = .ok key)
    (hfree : w.table.entries.lookup key = none) (new : Component C) :
    Ends (ComponentKind.register components tag new) w ()
      { w with table := ⟨w.table.entries ++ [(key, new)]⟩ } := by
  refine .bind (.read _ w) ?_
  rw [Registry.add_of_new _ new hkey hfree]
  exact .change _ w

/-- Where the code may do nothing, every class may be given a tag that is free. -/
theorem exists_define (w : ComponentWorld C) (hcode : ∀ s, code s (.ok (), s)) {tag : Datum}
    {key : String} (hkey : Registry.keyOfDatum tag = .ok key)
    (hfree : w.table.entries.lookup key = none) (c : C) :
    ∃ component t, define name code (some tag) c w (.ok component, t) ∧ component.tag = tag ∧
      t.table.entries = w.table.entries ++ [(key, component)] ∧ t.clears = w.clears := by
  obtain ⟨d, t, hbuild, htable, hclears⟩ := build_mayReturn name w hcode c
  let new : Component C := ⟨t.made, tag, d⟩
  let u : ComponentWorld C := { t with made := t.made + 1 }
  let v : ComponentWorld C := { u with table := ⟨u.table.entries ++ [(key, new)]⟩ }
  have hregister := register_ends (w := u) hkey (htable ▸ hfree) new
  have hdefine : define name code (some tag) c w (.ok new, v) := by
    have hlookup : w.table.lookup? (tagFor name w (some tag) c) = none :=
      (Registry.lookup?_of_keyOfDatum hkey).trans hfree
    refine define_iff.2 (read_bind.2 ?_)
    rw [hlookup]
    exact ⟨.ok d, t, hbuild, .ok new, u, (numbered_ends _ t _).2 rfl, .ok (), v,
      (hregister _).2 rfl, rfl⟩
  exact ⟨new, v, hdefine, rfl, congrArg (·.entries ++ [(key, new)]) htable, hclears⟩

end Returning

/-! ## Runs -/

theorem IsNew.isSound {w : ComponentWorld C} (hw : w.IsNew) : w.IsSound where
  nodup := by rw [hw.table]; exact List.nodup_nil
  tagged := by rw [hw.table]; exact nofun
  definitions := by rw [hw.definitions]; exact nofun
  cache := by rw [hw.cache]; exact nofun

/-- Over every run, and whatever the code of the classes asks for: a defined component is for its
class and stands for its tag until the table is cleared, so does everything that is in the table,
what fails does to the table no more than the code it calls, and the tags of all entries are
listed in order without duplicates. -/
theorem stands_until_cleared [LawfulBEq C] {name : C → String} {asked : Operation C → Prop}
    {w₀ w : ComponentWorld C} {ops : List (Operation C)} (hnew : w₀.IsNew)
    (hrun : Runs (Operation.possibly name asked) ops w₀ w) :
    (∀ {depth tag? c component t},
      define name (behave name asked depth) tag? c w (.ok component, t) →
      component.definition.target = c ∧ ∀ {later u},
        Runs (Operation.possibly name asked) later t u → u.clears = t.clears →
        u.StandsFor name (tagFor name w tag? c) component) ∧
    (∀ {tag component}, w.table.lookup? tag = some component → w.StandsFor name tag component) ∧
    (∀ {code fault t} {op : Operation C}, op.run name code w (.error fault, t) →
      (Advances (fun w t => t.table = w.table) code → t.table = w.table) ∧
      ∀ R, IsStep R → Advances (fun w t => R w.table t.table) code → R w.table t.table) ∧
    ∀ code, ∃ tags, Ends ((kind name code).tags components) w tags w ∧
      tags.Pairwise (· ≤ ·) ∧ tags.Nodup ∧ tags.Perm w.tagTexts := by
  have hw := (hnew.isSound.run hrun).1
  refine ⟨fun {depth tag? c component t} hdefine => ?_, standsFor_of_lookup?, ?_, fun code => ?_⟩
  · obtain ⟨ht, -, hcomponent⟩ := define_keeps (behave_isTame depth) hw tag? c _ _ hdefine
    obtain ⟨htarget, hfound⟩ := hcomponent component rfl
    refine ⟨htarget, fun hlater hclears => standsFor_of_lookup? ?_⟩
    exact (ht.run hlater).2.kept hclears hfound
  · intro code fault t op hfails
    refine ⟨fun hcode => ?_, fun R hR hcode => Operation.run_fails hR hcode hfails⟩
    have hsame : IsStep fun r r' : Registry (Component C) => r' = r :=
      ⟨fun _ => rfl, fun h₁ h₂ => h₂.trans h₁⟩
    exact Operation.run_fails hsame hcode hfails
  · refine ⟨_, tags_ends name code w, sorted_tags w, ?_, List.mergeSort_perm _ _⟩
    exact (List.mergeSort_perm _ _).nodup_iff.2 hw.nodup_tagTexts

theorem chip_row_stands_for_label :
    ∃ (component : Component String) (t u : ComponentWorld String),
      define id (behave id (fun _ => True) 0) (some (.text "chip-row")) "Label"
        ⟨.empty, [], .empty, "three-", 0, fun _ => [], 0⟩ (.ok component, t) ∧
      Runs (Operation.possibly id fun _ => True) [.setStart "own-"] t u ∧
      component.definition.target = "Label" ∧ u.StandsFor id (.text "chip-row") component ∧
      (∀ code, ∃ fault : Fault, fault.kind = .value ∧
        Breaks (define id code (some (.text " chip_row ")) "Button") u fault u) ∧
      (∀ code, Ends ((kind id code).tags components) u ["chip-row"] u) ∧
      (∃ v, createElement id (behave id (fun _ => True) 0) (.text " chip_row ")
        [("Text", .text "ok")] u (.ok ⟨u.made, component.definition⟩, v) ∧
        v.attributes u.made = [("text", "ok")]) ∧
      ∀ {depth element v}, createElement id (behave id (fun _ => True) depth) (.text " chip_row ")
          [("Text", .text "ok")] u (.ok element, v) →
        u.made ≤ element.number ∧ v.attributes element.number = [("text", "ok")] := by
  have hkey : Registry.keyOfDatum (.text "chip-row") = .ok "chip_row" := rfl
  have hspelling : Registry.keyOfDatum (.text " chip_row ") = .ok "chip_row" := rfl
  have hnew : IsNew (C := String) ⟨.empty, [], .empty, "three-", 0, fun _ => [], 0⟩ := ⟨rfl, rfl, rfl⟩
  have hidle : ∀ s, behave id (fun _ => True) 0 s (.ok (), s) := fun _ => rfl
  obtain ⟨component, t, hdefine, htag, htable, -⟩ :=
    exists_define id ⟨.empty, [], .empty, "three-", 0, fun _ => [], 0⟩ hidle hkey rfl "Label"
  obtain ⟨htarget, hstands⟩ := (stands_until_cleared hnew (.nil _)).1 hdefine
  let u : ComponentWorld String := { t with start := "own-" }
  have hlater : Runs (Operation.possibly id fun _ => True) [.setStart "own-"] t u :=
    .cons ⟨0, rfl⟩ (.nil u)
  have hrun : Runs (Operation.possibly id fun _ => True)
      [.define (some (.text "chip-row")) "Label", .setStart "own-"] _ u :=
    .cons ⟨0, .ok component, t, hdefine, rfl⟩ hlater
  have hu := hstands hlater rfl
  have htexts : textsOf [("Text", .text "ok")] = [("text", "ok")] := rfl
  refine ⟨component, t, u, hdefine, hlater, htarget, hu, ?_, fun code => ?_, ?_, ?_⟩
  · exact hu.refused (hspelling.trans hkey.symm) (by rw [htarget]; decide)
  · obtain ⟨-, -, -, htags⟩ := stands_until_cleared hnew hrun
    obtain ⟨tags, hends, -, -, hperm⟩ := htags code
    have htexts : u.tagTexts = ["chip-row"] := by
      have hentries : u.table.entries = [("chip_row", component)] := htable
      rw [tagTexts, Registry.values, hentries, List.map_singleton, List.map_singleton, htag]
      rfl
    rw [htexts] at hperm
    cases List.perm_singleton.1 hperm
    exact hends
  · refine ⟨_, hu.element_returns (hspelling.trans hkey.symm) (fun s => ⟨.ok (), hidle s⟩) ?_
      (hidle u), ?_⟩
    · exact List.forall_mem_singleton.2 rfl
    · exact (HasNext.withElement u _).texts.trans htexts
  · intro depth element v hcreate
    have hcode := behave_leavesElements id (fun _ : Operation String => True) depth
    obtain ⟨x, hmade⟩ := hu.element_made (hspelling.trans hkey.symm) hcode hcreate
    obtain ⟨_, hran⟩ := hmade.ran
    refine ⟨?_, ?_⟩
    · exact hmade.number ▸ (hcode _ _ _ hran).made
    · rw [hmade.number, hmade.texts, htexts]

end SceneBridge.ComponentWorld
