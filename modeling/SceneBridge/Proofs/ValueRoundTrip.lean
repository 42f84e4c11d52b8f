import SceneBridge.Proofs.NumberText
import SceneBridge.Proofs.NumericObjects
import SceneBridge.Proofs.Scans

/-!
# Numeric values written and converted back

The list that a numeric value makes of itself, and the text of the numbers in the list with
commas between them, are converted back by the name of the kind: what comes back is a new object
of the same class that makes the same list.
-/

namespace SceneBridge

open Text Number

/-! ## Components -/

/-- The text of some doubles with commas between them. -/
def componentsText (xs : List Float) : String :=
  join "," (xs.map Style.exact.write)

/-- A number whose text is read back as the number. -/
structure ReadsBack (x : Float) : Prop where
  notNaN : x.isNaN = false
  read : readFloat? (Style.exact.write x).toList = some x

instance (x : Float) : Decidable (ReadsBack x) :=
  decidable_of_iff (x.isNaN = false ∧ readFloat? (Style.exact.write x).toList = some x)
    ⟨fun h => ⟨h.1, h.2⟩, fun h => ⟨h.notNaN, h.read⟩⟩

/-- Splitting and trimming leave the texts of the doubles. -/
theorem splitComponents_componentsText {xs : List Float} (hxs : 2 ≤ xs.length) :
    splitComponents (componentsText xs).toList = xs.map fun x => (Style.exact.write x).toList := by
  have htexts : (componentsText xs).toList =
      [','].intercalate (xs.map fun x => (Style.exact.write x).toList) := by
    simp [componentsText, join, Function.comp_def]
  have hcomma : ∀ cs ∈ xs.map fun x => (Style.exact.write x).toList, ',' ∉ cs := by
    intro cs hcs
    obtain ⟨x, -, rfl⟩ := List.mem_map.1 hcs
    exact (isFloatText_write x).noComma
  have hne : xs.map (fun x => (Style.exact.write x).toList) ≠ [] := by
    rw [ne_eq, List.map_eq_nil_iff]
    rintro rfl
    cases hxs
  have htrim : (xs.map fun x => (Style.exact.write x).toList).map trim =
      xs.map fun x => (Style.exact.write x).toList := by
    rw [List.map_map]
    exact List.map_congr_left fun x _ => (isFloatText_write x).isTrimmed
  rw [splitComponents, htexts, Brackets.splitOn_eq, List.splitOn_intercalate _ hcomma hne, htrim]
  split
  · rename_i hone
    have hlength := congrArg List.length hone
    simp only [List.length_map, List.length_singleton] at hlength
    omega
  · rfl

theorem toNumber_write {x : Float} (hx : ReadsBack x) :
    (Datum.text (String.ofList (Style.exact.write x).toList)).toNumber = .ok (.real x) := by
  have htext := isFloatText_write x
  have hquantity : readQuantity? (Style.exact.write x).toList = some (.real x) := by
    have htrim : trim (Style.exact.write x).toList = (Style.exact.write x).toList := htext.isTrimmed
    simp only [readQuantity?, htrim, htext.readInt?_eq, hx.read, hx.notNaN, Bool.false_and,
      Bool.false_eq_true, if_false]
  rw [Datum.toNumber, String.toList_ofList, hquantity]

/-- The datum is the text of the doubles, or the list of them. -/
inductive Datum.IsEncoding (xs : List Float) : Datum → Prop where
  | text : IsEncoding xs (.text (componentsText xs))
  | list : IsEncoding xs (.list (xs.map .float))

theorem Datum.IsEncoding.ne_null {xs : List Float} {d : Datum} (hd : d.IsEncoding xs) : d ≠ .null := by
  cases hd <;> exact nofun

theorem Datum.IsEncoding.components {xs : List Float} {d : Datum} (hd : d.IsEncoding xs)
    (hlength : 2 ≤ xs.length) (hxs : ∀ x ∈ xs, ReadsBack x) : d.components = .ok (xs.map .real) := by
  cases hd with
  | text =>
    rw [Datum.components, splitComponents_componentsText hlength]
    exact mapM_eq_ok_map fun x hx => toNumber_write (hxs x hx)
  | list => exact mapM_eq_ok_map fun _ _ => rfl

/-- The value is the text of the doubles, or a list of them. -/
inductive World.IsEncoding (w : World) (xs : List Float) : Value → Prop where
  | text : IsEncoding w xs (.text (componentsText xs))
  | list {v : Value} (h : w.IsFloatList v xs) : IsEncoding w xs v

theorem World.IsEncoding.see {w : World} {xs : List Float} {v : Value} (hv : w.IsEncoding xs v) :
    (w.see World.depthLimit v).IsEncoding xs := by
  cases hv with
  | text =>
    rw [Act.see_text]
    exact .text
  | list h =>
    obtain ⟨p, rfl, hp⟩ := h
    have hlist : w.see World.depthLimit (.object p) = .list (xs.map .float) :=
      Act.see_floats (by rw [hp]; rfl) 59
    rw [hlist]
    exact .list

/-! ## The table of constructors -/

/-- The place of the constructor of a kind. -/
def ValueKind.place (kind : ValueKind) : Nat :=
  Place.firstConstructor + ValueKind.all.idxOf kind

/-- The classes of the library, the converter and its table of constructors are as they are when a
script starts. -/
structure World.HasValueTypes (w : World) : Prop where
  library : w.HasLibrary
  size : World.usualObjects.size ≤ w.store.size
  converter : w.entity Place.converter =
    .ofClass (.library .converter) (.converter (.object Place.constructors))
  table : w.entity Place.constructors =
    .ofClass (.library .constructorTable) (.constructors usualConstructors)
  constructors : ∀ kind : ValueKind, w.entity kind.place = kind.constructor

theorem World.hasValueTypes_start (environment : Environment) :
    (World.start environment).HasValueTypes where
  library l := by simp only [World.info, World.start, List.lookup_nil]
  size := Nat.le_refl _
  converter := rfl
  table := rfl
  constructors kind := by cases kind <;> rfl

theorem lookup?_usualConstructors (kind : ValueKind) :
    usualConstructors.registry.lookup? (.text kind.name) = some (.object kind.place) := by
  have hplace : (usualConstructors.registry.lookup? (.text kind.name)).bind Act.place? =
      some kind.place := by
    cases kind <;> decide +kernel
  obtain ⟨v, hfound, hv⟩ := Option.bind_eq_some_iff.1 hplace
  cases v with
  | object p => rw [hfound, Option.some.inj hv]
  | _ => cases hv

theorem World.HasValueTypes.extends {w w' : World} (h : w.HasValueTypes) (hw : w.Extends w') :
    w'.HasValueTypes := by
  have hsame (p : Nat) (hp : p < World.usualObjects.size) : w'.entity p = w.entity p :=
    hw.entity p (Nat.lt_of_lt_of_le hp h.size)
  refine ⟨h.library.extends hw, Nat.le_trans h.size hw.size, ?_, ?_, fun kind => ?_⟩
  · rw [hsame _ (by decide), h.converter]
  · rw [hsame _ (by decide), h.table]
  · rw [hsame _ (by cases kind <;> decide), h.constructors]

namespace Act

variable {n : Nat} {w : World} {kind : ValueKind} {parts : List Float}

/-- The table has the constructor of a kind under its name. -/
theorem gives_lookup (hw : w.HasValueTypes) (kind : ValueKind) :
    Gives ((Calls.ofDepth (n + 1)).send (.object Place.constructors) "lookup" [.text kind.name]) w
      fun v w' => v = .object kind.place ∧ w' = w := by
  refine gives_send (l := .constructorTable) ⟨[("name", .text kind.name)], [], none, [], none⟩
    hw.library (by rw [hw.table]; rfl) (by rw [hw.table]; rfl) rfl (fun _ => rfl) ?_
  have hregistry : Runs (registryOf Place.constructors).get w usualConstructors.registry w := by
    refine (runs_entity _ w).bind ?_
    rw [hw.table]
    exact runs_pure _ w
  refine Runs.bind_gives hregistry (Runs.bind_gives (runs_see _ w) (gives_pure ?_))
  rw [Invocation.arg, Arguments.get]
  simp [lookup?_usualConstructors]

/-- The attributes of the constructor of a kind. -/
theorem runs_constructorMember (hw : w.HasValueTypes) (kind : ValueKind) {name : String} {v : Value}
    (hname : name ∈ ["factory", "layout", "value_class"])
    (hv : kind.constructor.attributes.lookup name = some v) :
    Runs ((Calls.ofDepth (n + 1)).member (.object kind.place) name) w v w := by
  have hentity := hw.constructors kind
  exact runs_objectMember_attribute hw.library (by rw [hentity]; rfl) (by rw [hentity]; exact hv)
    (LibraryClass.constructor_member?_ne hname)

/-! ## Building -/

section Building

variable {v : Value} {table : Value}

/-- The result is a new object that is a value of the kind with these numbers. -/
def Makes (w : World) (kind : ValueKind) (parts : List Float) (v : Value) (w' : World) : Prop :=
  w.Extends w' ∧ ∃ q, v = .object q ∧ w'.IsNumeric q kind parts

theorem runs_layout (hw : w.HasValueTypes) (kind : ValueKind) :
    Runs ((Conversion.objectSurroundings (Calls.ofDepth (n + 1)) table).layout (.object kind.place)) w
      kind.layout w := by
  have hname : (Layout.ofName? kind.layout.name).getD .positional = kind.layout := by
    cases kind <;> rfl
  refine (runs_constructorMember hw kind (by decide) rfl).bind ?_
  dsimp only
  rw [hname]
  exact runs_pure _ w

theorem runs_ofQuantities {calls : Calls} (xs : List Float) :
    Runs (Conversion.ofQuantities (Conversion.objectSurroundings calls table) (xs.map .real)) w
      (xs.map .float) w := by
  rw [Conversion.ofQuantities, List.mapM_map]
  refine runs_mapM fun x _ => ?_
  change Runs (ofDatum (.float x)) w _ w
  rw [ofDatum]
  · exact runs_pure _ w
  all_goals nofun

/-- The factory of a kind that takes numbers one by one makes a value of them. -/
theorem gives_build (hw : w.HasValueTypes) (hlayout : kind.layout ≠ .flat)
    (hlength : parts.length = kind.size) :
    Gives ((Conversion.objectSurroundings (Calls.ofDepth (n + 3)) table).build (.object kind.place)
      (parts.map .float)) w (Makes w kind parts) := by
  have hfactory : kind.factory = kind.classRef := by
    cases kind with
    | matrix3 | matrix4 => exact absurd rfl hlayout
    | vector2 | vector3 | vector4 | euler | quaternion | color => rfl
  refine Runs.bind_gives (runs_constructorMember hw kind (by decide) rfl) ?_
  rw [hfactory]
  by_cases hpositional : kind.layout = .positional
  · exact gives_newPositional hw.library hpositional hlength
  · obtain rfl : kind = .color := by
      cases kind <;> first | rfl | exact absurd rfl hlayout | exact absurd rfl hpositional
    obtain ⟨r, g, b, rfl⟩ := List.length_eq_three.1 hlength
    have hseen (w : World) : [Value.float r, .float g, .float b].map (w.see World.depthLimit) =
        [.float r, .float g, .float b] := by simp
    refine (gives_newColour hw.library (by simp) hseen rfl).mono ?_
    rintro _ _ ⟨hw', q, rfl, hq⟩
    exact ⟨hw', q, rfl, hq.isNumeric rfl⟩

theorem gives_buildFrom (hw : w.HasValueTypes) (hlength : parts.length = kind.size) :
    Gives (Conversion.buildFrom (Conversion.objectSurroundings (Calls.ofDepth (n + 3)) table)
      (.object kind.place) (parts.map .real)) w (Makes w kind parts) := by
  refine Runs.bind_gives (runs_ofQuantities parts) (Runs.bind_gives (runs_layout hw kind) ?_)
  cases hlayout : kind.layout with
  | flat =>
    have hlist := (World.Extends.refl w).withObject
      (.ofClass (.library .list) (.list (parts.map .float)))
    refine Runs.bind_gives (runs_newList _ w) ?_
    refine Runs.bind_gives (runs_constructorMember (hw.extends hlist) kind (by decide) rfl) ?_
    refine (gives_fromArray (hw.library.extends hlist) hlayout hlength
      ⟨_, rfl, World.entity_withObject_self ..⟩).mono fun v w' hmade => ?_
    exact ⟨hlist.trans hmade.1, hmade.2⟩
  | positional => exact gives_build hw (by simp [hlayout]) hlength
  | text => exact gives_build hw (by simp [hlayout]) hlength

/-- Neither a text nor a list is a numeric value already. -/
theorem runs_accepts (hw : w.HasValueTypes) (kind : ValueKind) (hv : w.IsEncoding parts v) :
    Runs ((Conversion.objectSurroundings (Calls.ofDepth (n + 1)) table).accepts (.object kind.place) v) w
      false w := by
  refine (runs_constructorMember hw kind (by decide) rfl).bind ?_
  cases hv with
  | text => exact runs_pure _ w
  | list h =>
    obtain ⟨p, rfl, hp⟩ := h
    have hother : (w.info (w.entity p).class_).order.contains (.library (.ofValueKind kind)) = false := by
      rw [hp]
      simp only [Entity.ofClass, hw.library .list]
      cases kind <;> decide
    refine (runs_get w).bind ?_
    simp only [hother]
    exact runs_pure _ w

theorem gives_buildValue (hw : w.HasValueTypes) (hlength : parts.length = kind.size)
    (hparts : ∀ x ∈ parts, ReadsBack x) (hv : w.IsEncoding parts v) :
    Gives (Conversion.buildValue (Conversion.objectSurroundings (Calls.ofDepth (n + 3)) table)
      (.object kind.place) v) w (Makes w kind parts) := by
  have hmany : 2 ≤ parts.length := by
    rw [hlength]
    cases kind <;> decide
  have hseen := hv.see
  have hcomponents := hseen.components hmany hparts
  refine Runs.bind_gives (runs_accepts hw kind hv) (Runs.bind_gives (runs_see v w) ?_)
  refine Runs.bind_gives (runs_layout hw kind) ?_
  generalize w.see World.depthLimit v = d at hseen hcomponents
  have hfrom : Gives (Conversion.lift d.components >>= Conversion.buildFrom
      (Conversion.objectSurroundings (Calls.ofDepth (n + 3)) table) (.object kind.place)) w
      (Makes w kind parts) := by
    rw [hcomponents]
    exact Runs.bind_gives (runs_lift _ w) (gives_buildFrom hw hlength)
  cases hlayout : kind.layout with
  | text =>
    cases hseen with
    | text =>
      simp only [hcomponents]
      exact Runs.bind_gives (runs_ofQuantities parts) (gives_build hw (by simp [hlayout]) hlength)
    | list => exact hfrom
  | flat | positional => exact hfrom

/-! ## Converting -/

/-- What is built without a fault is not let pass. -/
theorem gives_orDegrade {calls : Calls} {t : TypeExpr} {kinds : FaultKind → Bool}
    {reason : Fault → Reason} {body : Act Value} {Q : Value → World → Prop} (hbody : Gives body w Q) :
    Gives (Conversion.orDegrade (Conversion.objectSurroundings calls table) false v t kinds reason body)
      w Q := by
  have hcaught : Gives (Except.ok <$> body : Act (Except Fault Value)) w fun outcome w' =>
      ∃ a, outcome = .ok a ∧ Q a w' :=
    .map (hbody.mono fun a _ hQ => ⟨a, rfl, hQ⟩)
  refine hcaught.tryCatch.bind ?_
  rintro _ w₁ ⟨a, rfl, hQ⟩
  exact gives_pure hQ

/-- A value that is built is what the conversion to the name of its kind gives. -/
theorem gives_convertAs {Q : Value → World → Prop} (hw : w.HasValueTypes)
    (hnull : w.see World.depthLimit v ≠ .null)
    (hbuild : Gives (Conversion.buildValue (Conversion.objectSurroundings (Calls.ofDepth (n + 1))
      (.object Place.constructors)) (.object kind.place) v) w Q) :
    Gives (Conversion.convertAs (Conversion.objectSurroundings (Calls.ofDepth (n + 1))
      (.object Place.constructors)) false v (.scalar kind.name)) w Q := by
  have hname : Conversion.isAny kind.name = false ∧ Conversion.primitive? kind.name = none := by
    cases kind <;> exact ⟨rfl, rfl⟩
  have hlookup : Gives ((Conversion.objectSurroundings (Calls.ofDepth (n + 1))
      (.object Place.constructors)).constructor? kind.name) w fun c w' =>
        c = some (.object kind.place) ∧ w' = w := by
    refine (gives_lookup hw kind).bind ?_
    rintro _ _ ⟨rfl, rfl⟩
    exact gives_pure ⟨rfl, rfl⟩
  have hscalar : Gives (Conversion.convertScalar (Conversion.objectSurroundings (Calls.ofDepth (n + 1))
      (.object Place.constructors)) false v kind.name) w Q := by
    rw [Conversion.convertScalar]
    simp only [hname, Bool.false_eq_true, if_false]
    refine hlookup.bind ?_
    rintro _ _ ⟨rfl, rfl⟩
    exact gives_orDegrade hbuild
  rw [Conversion.convertAs]
  refine Runs.bind_gives (runs_see v w) ?_
  split
  · exact absurd ‹_› hnull
  · exact hscalar

/-- The converter gives the value that is built of what it is handed. -/
theorem gives_convert {Q : Value → World → Prop} (hw : w.HasValueTypes)
    (hnull : w.see World.depthLimit v ≠ .null)
    (hbuild : Gives (Conversion.buildValue (Conversion.objectSurroundings (Calls.ofDepth (n + 1))
      (.object Place.constructors)) (.object kind.place) v) w Q) :
    Gives ((Calls.ofDepth (n + 2)).send (.object Place.converter) "convert"
      [v, .type (.scalar kind.name)]) w Q := by
  refine gives_send (l := .converter) ⟨[("value", v), ("type_", .type (.scalar kind.name))], [], none,
    [], none⟩ hw.library (by rw [hw.converter]; rfl) (by rw [hw.converter]; rfl) rfl (fun _ => rfl) ?_
  have htable : Runs (body (.object Place.converter)) w (.converter (.object Place.constructors)) w := by
    have hbody := runs_body Place.converter w
    rwa [hw.converter] at hbody
  refine Runs.bind_gives (htable.bind (runs_pure _ w)) ?_
  exact (gives_convertAs hw hnull hbuild).bind fun _ _ hmade => gives_pure hmade

end Building

/-- The list that a numeric value makes of itself, and the text of the numbers in it with commas
between them, are converted by the name of the kind to a new value of the same class that makes
the same list. -/
theorem gives_convert_toArray {w : World} {kind : ValueKind} {parts : List Float} {p : Nat}
    (hw : w.HasValueTypes) (hp : w.IsNumeric p kind parts) (hparts : ∀ x ∈ parts, ReadsBack x) :
    Gives (Calls.usual.send (.object p) "to_array" []) w fun list w₁ =>
      w₁.IsFloatList list parts ∧
      ∀ v, v = list ∨ v = .text (componentsText parts) →
        Gives (Calls.usual.send (.object Place.converter) "convert"
          [v, .type (.scalar kind.name)]) w₁ fun result w₂ =>
            ∃ q, result = .object q ∧ (w₂.entity q).class_ = (w.entity p).class_ ∧
              Gives (Calls.usual.send result "to_array" []) w₂ fun list' w₃ =>
                w₃.IsFloatList list' parts := by
  refine (gives_toArray (n := 998) hw.library hp).mono fun list w₁ ⟨hw₁, hlist⟩ => ⟨hlist, ?_⟩
  intro v hv
  have hencoding : w₁.IsEncoding parts v := by
    obtain rfl | rfl := hv
    · exact .list hlist
    · exact .text
  refine (gives_convert (hw.extends hw₁) hencoding.see.ne_null
    (gives_buildValue (n := 996) (hw.extends hw₁) hp.length hparts hencoding)).mono ?_
  rintro _ w₂ ⟨hw₂, q, rfl, hq⟩
  refine ⟨q, rfl, hq.class_.trans hp.class_.symm, ?_⟩
  exact (gives_toArray (n := 998) ((hw.extends hw₁).library.extends hw₂) hq).mono fun _ _ h => h.2

theorem gives_convert_toArray_matrix :
    let rows : List Float := [0.5, -0.0, 1e16, 0.1, infinity, -infinity, 5e-324, 1e-5, 1 / 3]
    let parts : List Float := [0.5, 0.1, 5e-324, -0.0, infinity, 1e-5, 1e16, -infinity, 1 / 3]
    let w₁ := (World.start []).withObject (.ofClass (.library .array) (.array ⟨[3, 3], rows⟩))
    let w := w₁.withObject { Entity.ofClass (.library .matrix3) .plain with
      attributes := [("elements", .object (World.start []).store.size)] }
    Gives (Calls.usual.send (.object w₁.store.size) "to_array" []) w fun list w₁' =>
      w₁'.IsFloatList list parts ∧
      ∀ v, v = list ∨ v = .text (componentsText parts) →
        Gives (Calls.usual.send (.object Place.converter) "convert"
          [v, .type (.scalar ValueKind.matrix3.name)]) w₁' fun result w₂ =>
            ∃ q, result = .object q ∧ (w₂.entity q).class_ = (w.entity w₁.store.size).class_ ∧
              Gives (Calls.usual.send result "to_array" []) w₂ fun list' w₃ =>
                w₃.IsFloatList list' parts := by
  intro rows parts w₁ w
  have hw : w.HasValueTypes := (World.hasValueTypes_start []).extends
    (((World.Extends.refl _).withObject _).withObject _)
  have hp : w.IsNumeric w₁.store.size .matrix3 (Matrix.transpose 3 rows) :=
    World.isNumeric_withMatrix (World.start []) .matrix3 rfl rows (by simp; rfl)
  have hparts : Matrix.transpose 3 rows = parts := rfl
  rw [hparts] at hp
  exact gives_convert_toArray hw hp (by decide +kernel)

end Act

end SceneBridge
