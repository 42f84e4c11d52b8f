import SceneBridge.Proofs.Failures

/-!
# Numbers out of range

Coercing a value to a number or building one from numbers fails with a fault that is not
caught exactly if an integer that no double holds, or a double that no integer holds, is met
on the way.
-/

namespace SceneBridge

/-! ## Values made of numbers -/

open Number

/-- An integer that no double holds is among the numbers. -/
def HasLarge (qs : List Quantity) : Prop :=
  ∃ n, .whole n ∈ qs ∧ tooLarge ≤ n.natAbs

theorem toFloat_ofQuantity (q : Quantity) : (Datum.ofQuantity q).toFloat = q.toFloat := by
  cases q <;> rfl

theorem mapM_toFloat_eq_error_iff {qs : List Quantity} {f : Fault} :
    (qs.map Datum.ofQuantity).mapM Datum.toFloat = .error f ↔ f = .intTooLarge ∧ HasLarge qs := by
  have hone (q : Quantity) : FailsOnly (· = .intTooLarge) q.toFloat := fun f hf =>
    (Quantity.toFloat_eq_error_iff.1 hf).1
  rw [List.mapM_map]
  have hcomp : Datum.toFloat ∘ Datum.ofQuantity = Quantity.toFloat := funext toFloat_ofQuantity
  rw [hcomp, mapM_eq_error_iff_exists hone]
  refine and_congr_right fun _ => ?_
  simp only [HasLarge, Quantity.toFloat_eq_error_iff, true_and]
  constructor
  · rintro ⟨_, hmem, n, rfl, hlarge⟩
    exact ⟨n, hmem, hlarge⟩
  · rintro ⟨n, hmem, hlarge⟩
    exact ⟨_, hmem, n, rfl, hlarge⟩

theorem arraysCells_ofQuantity (qs : List Quantity) :
    Datum.arraysCells (qs.map Datum.ofQuantity) = (qs.map Datum.ofQuantity).mapM Datum.toFloat := by
  induction qs with
  | nil => rfl
  | cons q qs ih =>
    have hcell : (Datum.ofQuantity q).arrayCells = do return [← (Datum.ofQuantity q).toFloat] := by
      cases q <;> rfl
    rw [List.map_cons, Datum.arraysCells, List.mapM_cons, ih, hcell]
    simp only [bind_assoc, pure_bind, List.singleton_append]

theorem arrayShape_ofQuantity (qs : List Quantity) :
    ∃ shape, (Datum.list (qs.map Datum.ofQuantity)).arrayShape = .ok shape := by
  have hshapes : Datum.arrayShapes (qs.map Datum.ofQuantity) = .ok (qs.map fun _ => []) := by
    induction qs with
    | nil => rfl
    | cons q qs ih =>
      have hshape : (Datum.ofQuantity q).arrayShape = .ok [] := by cases q <;> rfl
      rw [List.map_cons, Datum.arrayShapes, ih, hshape]
      rfl
  have hstack : ∃ shape, stackShapes (qs.map fun _ => []) = .ok shape := by
    cases qs with
    | nil => exact ⟨_, rfl⟩
    | cons q qs =>
      have hsame : (qs.map fun _ => ([] : List Nat)).all (· == []) = true := by simp
      exact ⟨_, if_pos hsame⟩
  obtain ⟨shape, hshape⟩ := hstack
  refine ⟨shape, ?_⟩
  rw [Datum.arrayShape, hshapes]
  exact hshape

theorem toArray_ofQuantity_eq_error_iff {qs : List Quantity} {f : Fault} :
    (Datum.list (qs.map Datum.ofQuantity)).toArray = .error f ↔ f = .intTooLarge ∧ HasLarge qs := by
  obtain ⟨shape, hshape⟩ := arrayShape_ofQuantity qs
  have hcells : (Datum.list (qs.map Datum.ofQuantity)).arrayCells =
      (qs.map Datum.ofQuantity).mapM Datum.toFloat := by
    rw [Datum.arrayCells, arraysCells_ofQuantity]
  rw [Datum.toArray, hshape, hcells, ← mapM_toFloat_eq_error_iff]
  change ((qs.map Datum.ofQuantity).mapM Datum.toFloat >>= fun cells => pure _) = _ ↔ _
  rw [bind_eq_error_iff]
  exact or_iff_left fun ⟨_, _, h⟩ => ok_ne_error _ _ h

theorem not_caught_of_large {f : Fault} (h : f = .intTooLarge) :
    Conversion.isBuildKind f.kind = false := by
  rw [h]
  rfl

/-- Only three channels are read as numbers of any size. -/
theorem Colour.make_ofQuantity (qs : List Quantity) (f : Fault) :
    Colour.make (qs.map Datum.ofQuantity) = .error f ∧ Conversion.isBuildKind f.kind = false ↔
      f = .intTooLarge ∧ qs.length = 3 ∧ HasLarge qs := by
  by_cases hcount : qs.length = 3
  · obtain ⟨r, g, b, rfl⟩ := List.length_eq_three.1 hcount
    -- Three channels are read one after another, like the parts of a vector.
    have hchannels : Colour.make ([r, g, b].map Datum.ofQuantity) =
        ([r, g, b].map Datum.ofQuantity).mapM Datum.toFloat := by
      simp [Colour.make, Colour.ofData]
    rw [hchannels, mapM_toFloat_eq_error_iff]
    constructor
    · exact fun h => ⟨h.1.1, hcount, h.1.2⟩
    · exact fun h => ⟨⟨h.1, h.2.2⟩, not_caught_of_large h.1⟩
  -- A single number is a code of any size, and any other count is refused.
  · refine iff_of_false ?_ fun h => hcount h.2.1
    rintro ⟨hfault, hcaught⟩
    cases qs with
    | nil => cases hfault
    | cons q qs =>
      cases qs with
      | nil =>
        cases q with
        | whole n => cases hfault
        | real x =>
          cases hfault
          cases hcaught
      | cons r qs =>
        cases qs with
        | nil =>
          cases hfault
          cases hcaught
        | cons s qs =>
          cases qs with
          | nil => exact hcount rfl
          | cons t qs =>
            cases hfault
            cases hcaught

namespace ValueKind

/-- The constructor of the kind reads that many numbers, rather than refusing them. -/
def takes (kind : ValueKind) (count : Nat) : Bool :=
  kind.isMatrix || (if kind == .color then count == 3 else count ≤ kind.size)

/-- The data that the constructor of the kind is handed for some numbers. -/
def arguments (kind : ValueKind) (qs : List Quantity) : List Datum :=
  if kind.isMatrix then [.list (qs.map Datum.ofQuantity)] else qs.map Datum.ofQuantity

/-- Given numbers, the constructor of a kind fails with a fault that is not caught if it reads so
many numbers and one of them is too large. -/
theorem construct_arguments (kind : ValueKind) (qs : List Quantity) (f : Fault) :
    kind.construct (kind.arguments qs) = .error f ∧ Conversion.isBuildKind f.kind = false ↔
      f = .intTooLarge ∧ kind.takes qs.length = true ∧ HasLarge qs := by
  -- The numbers of a matrix are read before they are counted, those of other values after.
  have hmatrix (kind : ValueKind) (className : String) :
      kind.ofElements className (.list (qs.map Datum.ofQuantity)) = .error f ∧
        Conversion.isBuildKind f.kind = false ↔ f = .intTooLarge ∧ HasLarge qs := by
    unfold ofElements
    rw [bind_eq_error_iff, toArray_ofQuantity_eq_error_iff]
    constructor
    · rintro ⟨hlarge | ⟨a, -, hcount⟩, hcaught⟩
      · exact hlarge
      · split at hcount
        · cases hcount
          cases hcaught
        · cases hcount
    · exact fun h => ⟨.inl h, not_caught_of_large h.1⟩
  have hcomponents (kind : ValueKind) (className : String) :
      kind.ofComponents className (qs.map Datum.ofQuantity) = .error f ∧
        Conversion.isBuildKind f.kind = false ↔
      f = .intTooLarge ∧ qs.length ≤ kind.size ∧ HasLarge qs := by
    unfold ofComponents
    rw [List.length_map]
    by_cases hcount : qs.length ≤ kind.size
    · rw [if_neg (Nat.not_lt.2 hcount), bind_eq_error_iff, mapM_toFloat_eq_error_iff]
      constructor
      · rintro ⟨hlarge | ⟨a, -, hrest⟩, -⟩
        · exact ⟨hlarge.1, hcount, hlarge.2⟩
        · cases hrest
      · exact fun h => ⟨.inl ⟨h.1, h.2.2⟩, not_caught_of_large h.1⟩
    · rw [if_pos (Nat.lt_of_not_le hcount)]
      constructor
      · rintro ⟨hfault, hcaught⟩
        split at hfault <;> cases hfault <;> cases hcaught
      · exact fun h => absurd h.2.1 hcount
  cases kind with
  | matrix3 => simpa [takes, arguments, isMatrix, construct] using hmatrix .matrix3 _
  | matrix4 => simpa [takes, arguments, isMatrix, construct] using hmatrix .matrix4 _
  | color =>
    have hmake : construct .color (arguments .color qs) =
        Colour.make (qs.map Datum.ofQuantity) := rfl
    have hcount : takes .color qs.length = (qs.length == 3) := rfl
    rw [hmake, hcount, beq_iff_eq]
    exact Colour.make_ofQuantity qs f
  | _ => simpa [takes, arguments, isMatrix, construct] using hcomponents _ _

end ValueKind

/-! ## Steps of a conversion -/

namespace Conversion

theorem lift_eq {α : Type} (x : Except Fault α) : (lift x : Except Fault α) = x := by
  cases x <;> rfl

theorem textOf_failsOnly (d : Datum) :
    FailsOnly (·.kind.isValue = true) (dataSurroundings.textOf d) := by
  dsimp only [dataSurroundings]
  split
  · exact failsOnly_ok _
  · exact failsOnly_error rfl

/-- What is made of the number of a datum fails with a fault that is not caught only if the
number is at fault. -/
theorem ofNumber_eq_error_iff {α β : Type} {d : Datum} {make : Quantity → Except Fault α}
    {g : α → β} {f : Fault} :
    (do return g (← lift (do make (← d.toNumber))) : Except Fault β) = .error f ∧
        f.kind.isValue = false ↔
      ∃ q, d.toNumber = .ok q ∧ make q = .error f ∧ f.kind.isValue = false := by
  rw [lift_eq, bind_eq_error_iff, bind_eq_error_iff]
  constructor
  · rintro ⟨(hnumber | hmake) | ⟨a, -, hrest⟩, hkind⟩
    · cases (d.toNumber_failsOnly f hnumber).symm.trans hkind
    · obtain ⟨q, hq, hfault⟩ := hmake
      exact ⟨q, hq, hfault, hkind⟩
    · cases hrest
  · rintro ⟨q, hq, hfault, hkind⟩
    exact ⟨.inl (.inr ⟨q, hq, hfault⟩), hkind⟩

/-- Only two coercions fail with faults that are not caught. -/
theorem coerce_eq_error_iff {p : Primitive} {d : Datum} {f : Fault} :
    coerce dataSurroundings p d = .error f ∧ f.kind.isValue = false ↔
      (p = .float ∧ f = .intTooLarge ∧
        ∃ n, d.toNumber = .ok (.whole n) ∧ tooLarge ≤ n.natAbs) ∨
      (p = .int ∧ f = .infiniteInt ∧ ∃ x, d.toNumber = .ok (.real x) ∧ IsInfinite x) := by
  have hcaught {x : Except Fault Datum} (hx : FailsOnly (·.kind.isValue = true) x) :
      ¬ (x = .error f ∧ f.kind.isValue = false) := by
    rintro ⟨hfault, hkind⟩
    cases (hx f hfault).symm.trans hkind
  cases p with
  | number =>
    refine iff_of_false (hcaught ?_) (by simp)
    change FailsOnly _ (do return Datum.ofQuantity (← lift d.toNumber))
    rw [lift_eq]
    exact d.toNumber_failsOnly.bind fun q => failsOnly_ok _
  | boolean =>
    refine iff_of_false (hcaught ?_) (by simp)
    change FailsOnly _ (do return Datum.bool (← lift d.toBool))
    rw [lift_eq]
    exact d.toBool_failsOnly.bind fun b => failsOnly_ok _
  | string =>
    refine iff_of_false (hcaught ?_) (by simp)
    -- A text is returned as it is; the text of another value may not be written.
    have hsee : FailsOnly (·.kind.isValue = true) (dataSurroundings.see d) := failsOnly_ok d
    refine hsee.bind fun e => ?_
    cases e with
    | text s => exact failsOnly_ok _
    | _ => exact (textOf_failsOnly d).bind fun s => failsOnly_ok _
  | float =>
    have hcoerce : coerce dataSurroundings .float d =
        (do return Datum.float (← lift (do (← d.toNumber).toFloat))) := rfl
    simp only [hcoerce, true_and, reduceCtorEq, false_and, or_false, ofNumber_eq_error_iff]
    constructor
    · rintro ⟨q, hq, hfault, -⟩
      obtain ⟨hf, n, rfl, hlarge⟩ := Quantity.toFloat_eq_error_iff.1 hfault
      exact ⟨hf, n, hq, hlarge⟩
    · rintro ⟨hf, n, hn, hlarge⟩
      refine ⟨_, hn, Quantity.toFloat_eq_error_iff.2 ⟨hf, n, rfl, hlarge⟩, ?_⟩
      rw [hf]
      rfl
  | int =>
    have hcoerce : coerce dataSurroundings .int d =
        (do return Datum.int (← lift (do (← d.toNumber).toInt))) := rfl
    simp only [hcoerce, true_and, reduceCtorEq, false_and, false_or, ofNumber_eq_error_iff]
    constructor
    · rintro ⟨q, hq, hfault⟩
      obtain ⟨hf, x, rfl, hx⟩ := Quantity.toInt_eq_error_iff.1 hfault
      exact ⟨hf, x, hq, hx⟩
    · rintro ⟨hf, x, hq, hx⟩
      exact ⟨_, hq, Quantity.toInt_eq_error_iff.2 ⟨hf, x, rfl, hx⟩⟩

theorem ofQuantities_eq (qs : List Quantity) :
    ofQuantities dataSurroundings qs = .ok (qs.map Datum.ofQuantity) :=
  List.mapM_pure

/-- A value is built from numbers by the constructor of its kind. -/
theorem buildFrom_eq (kind : ValueKind) (qs : List Quantity) :
    buildFrom dataSurroundings kind qs = dataSurroundings.build kind (kind.arguments qs) := by
  rw [buildFrom, ofQuantities_eq]
  cases kind <;> rfl

theorem build_eq_error_iff {kind : ValueKind} {args : List Datum} {f : Fault} :
    dataSurroundings.build kind args = .error f ↔ kind.construct args = .error f := by
  dsimp only [dataSurroundings]
  rw [bind_eq_error_iff]
  exact or_iff_left fun ⟨_, _, h⟩ => ok_ne_error _ _ h

theorem buildFrom_eq_error_iff {kind : ValueKind} {qs : List Quantity} {f : Fault} :
    buildFrom dataSurroundings kind qs = .error f ∧ isBuildKind f.kind = false ↔
      f = .intTooLarge ∧ kind.takes qs.length = true ∧ HasLarge qs := by
  rw [buildFrom_eq, build_eq_error_iff, ValueKind.construct_arguments]

/-- A value of a kind that is not made of the datum is built from the components of the datum,
except that a text without components may name a colour. -/
theorem buildValue_eq {kind : ValueKind} {d : Datum}
    (hd : dataSurroundings.accepts kind d = .ok false) :
    buildValue dataSurroundings kind d = d.components >>= buildFrom dataSurroundings kind ∨
      ∃ s g, kind = .color ∧ d = .text s ∧ d.components = .error g ∧
        buildValue dataSurroundings kind d =
          dataSurroundings.build .color [.text (Text.trimText s)] := by
  have hsee : dataSurroundings.see d = .ok d := rfl
  have hlayout : dataSurroundings.layout kind = .ok kind.layout := rfl
  have hdatum (d : Datum) : dataSurroundings.ofDatum d = .ok d := rfl
  rw [buildValue, hd, ok_bind, hsee]
  simp only [ok_bind, hlayout, hdatum, Bool.false_eq_true, if_false, lift_eq, ofQuantities_eq]
  split
  · rename_i hkind
    have hcolour : kind = .color := by
      cases kind with
      | color => rfl
      | _ => cases hkind
    subst hcolour
    cases hcomponents : (Datum.text _).components with
    | ok qs => exact .inl (buildFrom_eq .color qs).symm
    | error f => exact .inr ⟨_, f, rfl, rfl, rfl, rfl⟩
  · exact .inl rfl

/-- Building a value fails with a fault that is not caught if its constructor reads an integer
that no double holds. -/
theorem buildValue_eq_error_iff {kind : ValueKind} {d : Datum} {f : Fault} :
    buildValue dataSurroundings kind d = .error f ∧ isBuildKind f.kind = false ↔
      f = .intTooLarge ∧ ∃ qs, d.components = .ok qs ∧ kind.takes qs.length = true ∧ HasLarge qs := by
  have hvalue {f : Fault} (hf : f.kind.isValue = true) : isBuildKind f.kind ≠ false := by
    simp [isBuildKind, hf]
  cases hknown : dataSurroundings.accepts kind d with
  | error g => cases d <;> cases hknown
  | ok known =>
    cases known with
    | true =>
      -- The datum is such a value itself, which has no components.
      have hreturns : buildValue dataSurroundings kind d = .ok d := by
        rw [buildValue, hknown]
        rfl
      rw [hreturns]
      refine iff_of_false (fun h => ok_ne_error _ _ h.1) ?_
      rintro ⟨-, qs, hqs, -⟩
      cases d with
      | value who kind' parts => cases hqs
      | _ => cases hknown
    | false =>
      obtain heq | ⟨s, g, -, rfl, hcomponents, heq⟩ := buildValue_eq hknown
      · rw [heq, bind_eq_error_iff]
        constructor
        · rintro ⟨hcomponents | ⟨qs, hqs, hfault⟩, hkind⟩
          · exact absurd hkind (hvalue (d.components_failsOnly f hcomponents))
          · obtain ⟨hf, hrest⟩ := buildFrom_eq_error_iff.1 ⟨hfault, hkind⟩
            exact ⟨hf, qs, hqs, hrest⟩
        · rintro ⟨hf, qs, hqs, hrest⟩
          obtain ⟨hfault, hkind⟩ := buildFrom_eq_error_iff.2 ⟨hf, hrest⟩
          exact ⟨.inr ⟨qs, hqs, hfault⟩, hkind⟩
      · have hcolour : ValueKind.construct .color [.text (Text.trimText s)] =
            Colour.make [.text (Text.trimText s)] := rfl
        rw [heq, build_eq_error_iff, hcomponents, hcolour, Colour.make_text]
        refine iff_of_false ?_ ?_
        · rintro ⟨hfault, hkind⟩
          exact hvalue (Colour.ofText_failsOnly _ f hfault) hkind
        · rintro ⟨-, qs, hqs, -⟩
          cases hqs

end Conversion

end SceneBridge
