import SceneBridge.Proofs.AdapterWorld
import SceneBridge.Text.Letter

/-!
# Attribute writes that fail

An attribute is written before the property that it stands for, and only the property can refuse
the write: an adapter that was disposed of, a computed property that can only be read, a conversion
or a setter of the target that fails. What an element keeps after such a failure is what it kept
before, but for the attribute, which is written for good.
-/

namespace SceneBridge

open Possibly Text

/-! ## The world -/

/-- An element, with what it keeps besides if it is an adapter. -/
structure AttributeWorld (V : Type) where
  element : ElementState (Thing V) (Thing V)
  state : AdapterState (Thing V)

namespace AttributeWorld

variable {V : Type}

/-- The text of an attribute. -/
def getAttribute (w : AttributeWorld V) (name : String) : Option String :=
  w.element.attributes.lookup (smallText name)

/-- Is there such an attribute? -/
def hasAttribute (w : AttributeWorld V) (name : String) : Bool :=
  Entries.has w.element.attributes (smallText name)

/-- The world with other attributes. -/
def withAttributes (w : AttributeWorld V) (table : List (String × String)) : AttributeWorld V :=
  { w with element := { w.element with attributes := table } }

/-- The attributes, the stored values and the changes that wait for an update are as before. -/
structure IsAsBefore (v w : AttributeWorld V) : Prop where
  getAttribute : ∀ name, w.getAttribute name = v.getAttribute name
  hasAttribute : ∀ name, w.hasAttribute name = v.hasAttribute name
  values : w.element.values = v.element.values
  changed : w.element.changed = v.element.changed

/-- What the element itself keeps is as before. -/
def LeavesElement (v w : AttributeWorld V) : Prop :=
  w.element = v.element

theorem leavesElement_isStep : IsStep (LeavesElement (V := V)) where
  refl _ := rfl
  trans h₁ h₂ := h₂.trans h₁

theorem hasAttribute_eq (w : AttributeWorld V) (name : String) :
    w.hasAttribute name = (w.getAttribute name).isSome := by
  unfold hasAttribute getAttribute
  rw [Bool.eq_iff_iff, Entries.has_iff, Option.isSome_iff_ne_none, ne_eq,
    Entries.lookup_eq_none_iff, not_not]

/-! ## Writes -/

/-- What is asked of the attributes. -/
inductive AttributeWrite (V : Type) where
  | set (name : String) (value : Thing V)
  | remove (name : String)

namespace AttributeWrite

/-- The name of the attribute. -/
def name : AttributeWrite V → String
  | set name _ | remove name => name

/-- The text that the attribute is to have, as far as the write says so. -/
def asked : AttributeWrite V → Option String
  | set _ (.text s) => some s
  | _ => none

/-- Is no text to be made of a value first? -/
def isDirect : AttributeWrite V → Bool
  | set _ (.text _) | remove _ => true
  | set _ _ => false

/-- The text of a value. Code outside makes one of a value that is no text. -/
def textOf (code : Possibly (AttributeWorld V) Unit) : Thing V → Possibly (AttributeWorld V) String
  | .text s => pure s
  | _ => anything code

/-- What the write may come to before it gets to the property that the attribute stands for. -/
inductive Begun (code : Possibly (AttributeWorld V) Unit) (v : AttributeWorld V) :
    AttributeWrite V → AttributeWorld V → Prop where
  | text (name text : String) :
    Begun code v (.set name (.text text))
      (v.withAttributes (Entries.put v.element.attributes (smallText name) text))
  | value {name : String} {value : Thing V} {u : AttributeWorld V}
      (hvalue : (set name value).isDirect = false) (hpasses : Passes code v u) (text : String) :
    Begun code v (.set name value)
      (u.withAttributes (Entries.put u.element.attributes (smallText name) text))
  | removed {name : String} (hset : v.hasAttribute name = true) :
    Begun code v (.remove name)
      (v.withAttributes (Entries.remove v.element.attributes (smallText name)))

variable {code : Possibly (AttributeWorld V) Unit} {write : AttributeWrite V} {u v w : AttributeWorld V}

/-- All but the attribute that is written is as before. -/
structure SparesOthers (write : AttributeWrite V) (v w : AttributeWorld V) : Prop where
  others : ∀ name, smallText name ≠ smallText write.name → w.getAttribute name = v.getAttribute name
  values : w.element.values = v.element.values
  changed : w.element.changed = v.element.changed

theorem SparesOthers.congr {v' w' : AttributeWorld V} (h : write.SparesOthers v w)
    (hv : v.element = v'.element) (hw : w.element = w'.element) : write.SparesOthers v' w' where
  others name hname := by
    unfold getAttribute
    rw [← hv, ← hw]
    exact h.others name hname
  values := by rw [← hv, ← hw, h.values]
  changed := by rw [← hv, ← hw, h.changed]

theorem SparesOthers.isAsBefore_iff (h : write.SparesOthers v w) :
    IsAsBefore v w ↔ w.getAttribute write.name = v.getAttribute write.name := by
  refine ⟨fun hbefore => hbefore.getAttribute _, fun hwritten => ?_⟩
  have hall (name : String) : w.getAttribute name = v.getAttribute name := by
    by_cases hname : smallText name = smallText write.name
    · unfold getAttribute at hwritten ⊢
      rw [hname, hwritten]
    · exact h.others name hname
  refine ⟨hall, fun name => ?_, h.values, h.changed⟩
  rw [hasAttribute_eq, hasAttribute_eq, hall name]

theorem sparesOthers_put {value : Thing V} (name text : String) :
    (set name value).SparesOthers v
      (v.withAttributes (Entries.put v.element.attributes (smallText name) text)) :=
  ⟨fun _ hother => Entries.lookup_put_of_ne _ _ hother, rfl, rfl⟩

theorem sparesOthers_remove (name : String) :
    (remove name).SparesOthers v
      (v.withAttributes (Entries.remove v.element.attributes (smallText name))) :=
  ⟨fun _ hother => Entries.lookup_remove_of_ne _ hother, rfl, rfl⟩

/-- A write that has changed the attribute has changed nothing else, unless code outside has. -/
theorem Begun.sparesOthers (hcode : Advances LeavesElement code) (hbegun : write.Begun code v u) :
    write.SparesOthers v u := by
  cases hbegun with
  | text name text => exact sparesOthers_put name text
  | @value name value u hvalue hpasses text =>
    have hsame : u.element = v.element := hpasses.of_advances leavesElement_isStep hcode
    exact (sparesOthers_put name text).congr hsame rfl
  | @removed name hset => exact sparesOthers_remove name

theorem SparesOthers.of_passes (hcode : Advances LeavesElement code) (hpasses : Passes code v w) :
    write.SparesOthers v w := by
  have hsame : w.element = v.element := hpasses.of_advances leavesElement_isStep hcode
  have hself : write.SparesOthers v v := ⟨fun _ _ => rfl, rfl, rfl⟩
  exact hself.congr rfl hsame.symm

theorem Begun.getAttribute_eq (hbegun : write.Begun code v u) (hdirect : write.isDirect = true) :
    u.getAttribute write.name = write.asked := by
  cases hbegun with
  | text name text => exact Entries.lookup_put_self _ _ _
  | value hvalue => simp [hvalue] at hdirect
  | removed => exact Entries.lookup_remove_self _ _

/-- The attribute had what it is to have only if that is a text: there is one to remove. -/
theorem Begun.asked_eq_iff (hbegun : write.Begun code v u) (hdirect : write.isDirect = true) :
    write.asked = v.getAttribute write.name ↔
      ∃ name text, write = .set name (.text text) ∧ v.getAttribute name = some text := by
  cases hbegun with
  | text name text =>
    constructor
    · intro hasked
      exact ⟨name, text, rfl, hasked.symm⟩
    · rintro ⟨_, _, ⟨⟩, hhas⟩
      exact hhas.symm
  | value hvalue => simp [hvalue] at hdirect
  | @removed name hset =>
    rw [hasAttribute_eq, Option.isSome_iff_ne_none] at hset
    constructor
    · intro hasked
      exact (hset hasked.symm).elim
    · rintro ⟨_, _, ⟨⟩, -⟩

end AttributeWrite

/-! ## Elements -/

section Element

variable (code : Possibly (AttributeWorld V) Unit)

/-- Compares two values: whatever code that runs, they count as different or not. -/
def compared : Possibly (AttributeWorld V) Bool := do
  tryCatchThe Fault (anything code) fun _ => pure ()
  choose fun answer : Bool => pure answer

/-- The element without the steps from one of its operations to another. -/
def bareElement : Element (Possibly (AttributeWorld V)) (Thing V) (Thing V) where
  state := cell AttributeWorld.element fun s w => { w with element := s }
  nothing := .nothing
  differs := fun _ _ => compared code
  setProperty := fun _ _ => pure ()
  requestUpdate := fun _ _ => pure ()
  update := fun _ => anything code
  firstUpdated := fun _ => anything code
  updated := fun _ => anything code
  notify := fun _ _ => anything code

/-- The element that notes the changes it is told of. -/
def notingElement : Element (Possibly (AttributeWorld V)) (Thing V) (Thing V) :=
  { bareElement code with requestUpdate := (bareElement code).recordChange }

end Element

variable {code : Possibly (AttributeWorld V) Unit}

theorem anything_passes {α : Type} :
    Advances (Passes code) (anything code : Possibly (AttributeWorld V) α) :=
  .anything (passes_advances code)

theorem compared_neverFails : NeverFails (compared code) :=
  .bind (.tryCatch fun _ => .pure ()) fun _ => .choose fun answer => .pure answer

/-- To store a property never fails where noting a change does not. -/
theorem storeProperty_neverFails {request : String → Thing V → Possibly (AttributeWorld V) Unit}
    (hrequest : ∀ name old, NeverFails (request name old)) (name : String) (value : Thing V) :
    NeverFails ({ bareElement code with requestUpdate := request }.storeProperty name value) := by
  refine .bind (.bind (.read _) fun _ => .pure _) fun old => ?_
  refine .bind (.modify _ _ _) fun _ => ?_
  refine .bind compared_neverFails fun differs => ?_
  cases differs with
  | true => exact hrequest name old
  | false => exact .pure _

/-! ## Adapters -/

section Adapter

variable [DecidableEq V] (d : AdapterDefinition (Thing V)) (code : Possibly (AttributeWorld V) Unit)

/-- The adapter without the steps from one of its operations to another. -/
def bareAdapter : Adapter (Possibly (AttributeWorld V)) (Thing V) (Thing V) where
  definition := d
  element := bareElement code
  state := cell AttributeWorld.state fun s w => { w with state := s }
  self := .adapter
  member := fun _ _ => anything code
  peek := fun _ _ => anything code
  setMember := fun _ _ _ => anything code
  convert := fun _ _ => anything code
  isNothing := (· = .nothing)
  same := fun a b => a = b
  entries? := fun _ => anything code
  newRecord := fun _ => anything code
  isOpenRecord := fun _ => anything code
  setEntry := fun _ _ _ => anything code
  isCallable := fun _ => anything code
  call := fun _ _ _ => anything code
  textValue := .text
  handler := fun _ => .nothing
  dispatch := fun _ _ => anything code
  disposeSelf := anything code

/-- The adapter that notes the changes it is told of. -/
def notingAdapter : Adapter (Possibly (AttributeWorld V)) (Thing V) (Thing V) :=
  { bareAdapter d code with
    element := { bareElement code with requestUpdate := (bareAdapter d code).requestUpdate } }

end Adapter

/-- Whose attributes are written. -/
inductive Owner (V : Type) where
  /-- An element that is no adapter. -/
  | plain
  | adapter (d : AdapterDefinition (Thing V))

variable [DecidableEq V]

namespace Owner

/-- The element whose attributes set its properties, among code that does `code` when it is
called. -/
def element (code : Possibly (AttributeWorld V) Unit) :
    Owner V → Element (Possibly (AttributeWorld V)) (Thing V) (Thing V)
  | plain => { notingElement code with setProperty := (notingElement code).storeProperty }
  | adapter d =>
    { (notingAdapter d code).element with setProperty := (notingAdapter d code).setProperty }

/-- The fault by which a property refuses to be set, whatever code there is outside. -/
def refusal? (v : AttributeWorld V) (property : String) : Owner V → Option Fault
  | plain => none
  | adapter d =>
    if v.state.target.isNone then some (.disposed d.className)
    else match d.metadata.computed.lookup property with
      | some info => if info.hasSetter then none else some (.readOnly property)
      | none => none

end Owner

/-- What the write does among code that does `code` when it is called. -/
def AttributeWrite.run (owner : Owner V) (code : Possibly (AttributeWorld V) Unit) :
    AttributeWrite V → Possibly (AttributeWorld V) Unit
  | set name value => do
    let text ← textOf code value
    (owner.element code).setAttribute (smallText name) text (.text text)
  | remove name => (owner.element code).removeAttribute (smallText name)

variable {owner : Owner V} {write : AttributeWrite V} {d : AdapterDefinition (Thing V)}
  {u v w : AttributeWorld V} {fault : Fault}

/-! ## How a property can fail -/

theorem requestUpdate_neverFails (name : String) (old : Thing V) :
    NeverFails ((bareAdapter d code).requestUpdate name old) :=
  .bind (.modify _ _ _) fun _ => .modify _ _ _

theorem requireTarget_passes : Advances (Passes code) (notingAdapter d code).requireTarget := by
  refine .bind (passes_isStep code) (.read (passes_isStep code) _) fun s => ?_
  cases s.target with
  | some t => exact .pure (passes_isStep code) t
  | none => exact .throw (passes_isStep code) _

/-- A computed property fails before the change is noted. -/
theorem setComputed_failsWithin (name : String) (info : ComputedInfo) (value : Thing V) :
    FailsWithin (Passes code) ((notingAdapter d code).setComputed name info value) := by
  have hR := passes_isStep code
  have hwrite (t old : Thing V) : FailsWithin (Passes code) (do
      let converted ← (notingAdapter d code).convert value info.type
      (notingAdapter d code).setMember t name converted
      (notingAdapter d code).element.requestUpdate name old) := by
    refine .bind hR anything_passes fun converted => .bind hR anything_passes fun _ => ?_
    exact (requestUpdate_neverFails name old).failsWithin
  have hrest : FailsWithin (Passes code) (do
      let t ← (notingAdapter d code).requireTarget
      let old ← if info.hasGetter then (notingAdapter d code).member t name
        else pure (notingAdapter d code).element.nothing
      let converted ← (notingAdapter d code).convert value info.type
      (notingAdapter d code).setMember t name converted
      (notingAdapter d code).element.requestUpdate name old) := by
    refine .bind hR requireTarget_passes fun t => ?_
    cases info.hasGetter with
    | true => exact .bind hR anything_passes fun old => hwrite t old
    | false => exact .bind hR (.pure hR _) fun old => hwrite t old
  unfold Adapter.setComputed
  cases info.hasSetter with
  | true => exact hrest
  | false => exact .bind hR (.throw hR _) fun _ => hrest

/-- Where setting a property fails, it is one of an adapter, and nothing but code outside has
changed anything. -/
theorem setProperty_fails {name : String} {value : Thing V}
    (hrun : (owner.element code).setProperty name value v (.error fault, w)) :
    (∃ d, owner = .adapter d) ∧ Passes code v w := by
  cases owner with
  | plain =>
    have hnever : NeverFails ((notingElement code).storeProperty name value) :=
      storeProperty_neverFails (fun _ _ => .modify _ _ _) name value
    exact (hnever v fault w hrun).elim
  | adapter d =>
    have hsets : FailsWithin (Passes code) ((notingAdapter d code).setProperty name value) := by
      refine .bind (passes_isStep code) requireTarget_passes fun _ => ?_
      cases (notingAdapter d code).definition.metadata.computed.lookup name with
      | some info => exact setComputed_failsWithin name info value
      | none =>
        exact (storeProperty_neverFails (fun _ _ => requestUpdate_neverFails _ _) name value).failsWithin
    exact ⟨⟨d, rfl⟩, hsets v fault w hrun⟩

/-- What a property refuses is refused at once. -/
theorem setProperty_breaks {name : String} (value : Thing V)
    (hrefuses : owner.refusal? v name = some fault) :
    Breaks ((owner.element code).setProperty name value) v fault v := by
  cases owner with
  | plain => cases hrefuses
  | adapter d =>
    rw [Owner.refusal?] at hrefuses
    cases htarget : v.state.target with
    | none =>
      rw [htarget] at hrefuses
      obtain rfl := Option.some.inj hrefuses
      exact ((notingAdapter d code).requireTarget_breaks (.read _ v) htarget).bind
    | some t =>
      rw [htarget] at hrefuses
      refine ((notingAdapter d code).requireTarget_ends (.read _ v) htarget).bind_breaks ?_
      dsimp only [notingAdapter, bareAdapter]
      cases hcomputed : d.metadata.computed.lookup name with
      | none =>
        rw [hcomputed] at hrefuses
        cases hrefuses
      | some info =>
        rw [hcomputed] at hrefuses
        cases hsetter : info.hasSetter with
        | true => simp [hsetter] at hrefuses
        | false =>
          obtain rfl : Fault.readOnly name = fault := by simpa [hsetter] using hrefuses
          exact (notingAdapter d code).setComputed_breaks hsetter

/-! ## How a write can fail -/

theorem element_state (owner : Owner V) (code : Possibly (AttributeWorld V) Unit) :
    (owner.element code).state = cell AttributeWorld.element fun s w => { w with element := s } := by
  cases owner <;> rfl

section Reflected

variable {property? : Option String} {name : String} {value : Thing V}

/-- Once the attribute is changed, only the property that it stands for can fail. -/
theorem reflected_fails
    (hrun : (match property? with
      | some name => (owner.element code).setProperty name value
      | _ => pure ()) v (.error fault, w)) :
    property?.isSome ∧ (∃ d, owner = .adapter d) ∧ Passes code v w := by
  cases property? with
  | none => cases (Prod.mk.inj hrun).1
  | some name => exact ⟨rfl, setProperty_fails hrun⟩

theorem reflected_breaks (hname : property? = some name)
    (hrefuses : owner.refusal? v name = some fault) :
    Breaks (match property? with
      | some name => (owner.element code).setProperty name value
      | _ => pure ()) v fault v := by
  rw [hname]
  exact setProperty_breaks value hrefuses

end Reflected

namespace AttributeWrite

theorem setAttribute_fails {attr text : String} {value : Thing V}
    (hrun : (owner.element code).setAttribute attr text value v (.error fault, w)) :
    (v.element.propertyFor? attr).isSome ∧ (∃ d, owner = .adapter d) ∧
      Passes code (v.withAttributes (Entries.put v.element.attributes attr text)) w := by
  rw [Element.setAttribute, element_state, cell_modify, change_bind] at hrun
  exact reflected_fails (read_bind.1 hrun)

theorem removeAttribute_fails {attr : String}
    (hrun : (owner.element code).removeAttribute attr v (.error fault, w)) :
    Entries.has v.element.attributes attr = true ∧ (v.element.propertyFor? attr).isSome ∧
      (∃ d, owner = .adapter d) ∧
      Passes code (v.withAttributes (Entries.remove v.element.attributes attr)) w := by
  rw [Element.removeAttribute, element_state] at hrun
  have hrest := read_bind.1 hrun
  cases hset : Entries.has v.element.attributes attr with
  | false =>
    simp only [hset] at hrest
    cases (Prod.mk.inj hrest).1
  | true =>
    simp only [hset] at hrest
    exact ⟨rfl, reflected_fails (change_bind.1 hrest)⟩

/-- A write that fails either fails while the text is made of a value, or has changed the attribute;
from there on there was only code outside. -/
theorem run_fails (hrun : write.run owner code v (.error fault, w)) :
    write.isDirect = false ∧ Passes code v w ∨
      ∃ u, write.Begun code v u ∧ (u.element.propertyFor? (smallText write.name)).isSome ∧
        (∃ d, owner = .adapter d) ∧ Passes code u w := by
  cases write with
  | remove name =>
    obtain ⟨hset, hfails⟩ := removeAttribute_fails hrun
    exact .inr ⟨_, .removed hset, hfails⟩
  | set name value =>
    cases hdirect : (set name value).isDirect with
    | true =>
      cases value with
      | text s =>
        rw [run, textOf, pure_bind] at hrun
        exact .inr ⟨_, .text name s, setAttribute_fails hrun⟩
      | _ => cases hdirect
    | false =>
      have htext : textOf code value = anything code := by
        cases value with
        | text s => cases hdirect
        | _ => rfl
      rw [run, htext] at hrun
      obtain ⟨other, -, hrun⟩ | ⟨s, u, hmade, hrun⟩ := bind_cases hrun
      · exact .inl ⟨rfl, anything_passes _ _ _ hrun⟩
      · exact .inr ⟨_, .value hdirect (anything_passes _ _ _ hmade) s, setAttribute_fails hrun⟩

/-- Where the property refuses to be set, the write of a text or a removal fails with the attribute
changed, and comes to no other end. -/
theorem run_breaks {name : String} (hdirect : write.isDirect = true) (hbegun : write.Begun code v u)
    (hname : u.element.propertyFor? (smallText write.name) = some name)
    (hrefuses : owner.refusal? u name = some fault) : Breaks (write.run owner code) v fault u := by
  cases hbegun with
  | text attr s =>
    let u := v.withAttributes (Entries.put v.element.attributes (smallText attr) s)
    rw [run, textOf, pure_bind, Element.setAttribute, element_state]
    refine Ends.bind_breaks (.modify _ _ _ v) (Ends.bind_breaks (.read _ u) ?_)
    exact reflected_breaks hname hrefuses
  | value hvalue => simp [hvalue] at hdirect
  | @removed attr hset =>
    have hset : Entries.has v.element.attributes (smallText attr) = true := hset
    rw [run, Element.removeAttribute, element_state]
    refine Ends.bind_breaks (.read _ v) ?_
    simp only [hset]
    exact Ends.bind_breaks (.change _ v) (reflected_breaks hname hrefuses)

end AttributeWrite

/-- Wherever a write of an attribute fails, it is while code outside makes a text of the value, or
at the property of an adapter when the attribute is changed already. As far as code outside leaves
the element alone, all but that attribute is as before then; a text is there and a removed
attribute is gone, so all is as before only if the attribute had that text. An adapter that was
disposed of and a property that can only be read fail every such write. -/
theorem failed_writes_keep_attribute (owner : Owner V) (write : AttributeWrite V)
    (code : Possibly (AttributeWorld V) Unit) (v : AttributeWorld V) :
    (∀ fault w, write.run owner code v (.error fault, w) →
      (write.isDirect = false ∧ Passes code v w ∨
        ∃ u, write.Begun code v u ∧ (u.element.propertyFor? (smallText write.name)).isSome ∧
          (∃ d, owner = .adapter d) ∧ Passes code u w) ∧
      (Advances LeavesElement code →
        write.SparesOthers v w ∧
        (IsAsBefore v w ↔ w.getAttribute write.name = v.getAttribute write.name) ∧
        (write.isDirect = true →
          w.getAttribute write.name = write.asked ∧
          (IsAsBefore v w ↔
            ∃ name text, write = .set name (.text text) ∧ v.getAttribute name = some text)))) ∧
    ∀ u name fault, write.isDirect = true → write.Begun code v u →
      u.element.propertyFor? (smallText write.name) = some name →
      owner.refusal? u name = some fault → Breaks (write.run owner code) v fault u := by
  refine ⟨fun fault w hrun => ?_, fun u name fault => AttributeWrite.run_breaks⟩
  have hfails := AttributeWrite.run_fails hrun
  refine ⟨hfails, fun hcode => ?_⟩
  have hspares : write.SparesOthers v w := by
    obtain ⟨-, hpasses⟩ | ⟨u, hbegun, -, -, hpasses⟩ := hfails
    · exact .of_passes hcode hpasses
    · have hsame : w.element = u.element := hpasses.of_advances leavesElement_isStep hcode
      exact (hbegun.sparesOthers hcode).congr rfl hsame.symm
  refine ⟨hspares, hspares.isAsBefore_iff, fun hdirect => ?_⟩
  obtain ⟨hindirect, -⟩ | ⟨u, hbegun, -, -, hpasses⟩ := hfails
  · simp [hindirect] at hdirect
  have hsame : w.element = u.element := hpasses.of_advances leavesElement_isStep hcode
  have hasked : w.getAttribute write.name = write.asked := by
    rw [← hbegun.getAttribute_eq hdirect, getAttribute, getAttribute, hsame]
  refine ⟨hasked, ?_⟩
  rw [hspares.isAsBefore_iff, hasked]
  exact hbegun.asked_eq_iff hdirect

/-! ## A write after disposal -/

/-- The definition of an adapter with one property. -/
def labelDefinition : AdapterDefinition (Thing Nat) where
  className := "Label"
  metadata := { Metadata.empty with properties := [("note", ⟨"note", .scalar "string", ""⟩)] }
  attributes := ["note"]
  methods := []
  statics := []
  eventPrefix := "three-"
  shadowed := []

/-- An adapter that was disposed of before anything was asked of it. -/
def disposedLabel : AttributeWorld Nat where
  element := (ElementState.empty.declare "note" (some "note")).store "note" (.text "draft")
  state := ⟨.disposed, [], none⟩

/-- The adapter after its note was written. -/
def writtenLabel : AttributeWorld Nat :=
  disposedLabel.withAttributes [("note", "x")]

theorem label_written_after_disposal :
    Breaks ((AttributeWrite.set "note" (.text "x")).run (.adapter labelDefinition) (pure ()))
        disposedLabel (.disposed "Label") writtenLabel ∧
      disposedLabel.hasAttribute "note" = false ∧ writtenLabel.hasAttribute "note" = true ∧
      ¬ IsAsBefore disposedLabel writtenLabel := by
  obtain ⟨hfails, hbreaks⟩ := failed_writes_keep_attribute (.adapter labelDefinition)
    (.set "note" (.text "x")) (pure ()) disposedLabel
  have hrun := hbreaks writtenLabel "note" (.disposed "Label") rfl (.text "note" "x") rfl rfl
  obtain ⟨-, hleaves⟩ := hfails _ _ ((hrun _).2 rfl)
  obtain ⟨-, -, hdirect⟩ := hleaves (.pure leavesElement_isStep ())
  obtain ⟨-, hbefore⟩ := hdirect rfl
  refine ⟨hrun, by decide, by decide, fun h => ?_⟩
  -- There was no such attribute before.
  obtain ⟨name, text, hwrite, hhas⟩ := hbefore.1 h
  cases hwrite
  cases hhas

end AttributeWorld

end SceneBridge
