import SceneBridge.Proofs.ConversionSteps
import SceneBridge.Proofs.NumberText
import SceneBridge.Proofs.Scans
import SceneBridge.Proofs.TypeText

/-!
# Texts of lists

A list is written as its items with commas between them. An item may have commas of its own inside
of brackets and quotes. Taking the text apart gives the items back, in order and without the blanks
around them, and converting it gives what converting them gives.
-/

namespace SceneBridge

open Text Number

/-! ## Taking apart -/

/-- The text can be taken apart at commas, and is left in one part. -/
def IsItem (x : String) : Prop :=
  Brackets.splitText x "," (-1) = .ok [x]

instance (x : String) : Decidable (IsItem x) :=
  inferInstanceAs (Decidable (_ = _))

/-- There is an item, and not a blank one alone. -/
structure IsItemList (xs : List String) : Prop where
  nonempty : xs ≠ []
  item : ∀ x ∈ xs, IsItem x
  notBlank : ∀ x, xs = [x] → trim x.toList ≠ []

theorem isItem_iff {x : String} : IsItem x ↔ Brackets.IsPart (· == ',') x.toList := by
  have hsep : (fun c => "," == String.singleton c) = (· == ',') := by
    funext c
    have hcomma : "," = String.singleton ',' := rfl
    rw [hcomma, Bool.eq_iff_iff, beq_iff_eq, beq_iff_eq, String.singleton_inj, eq_comm]
  unfold IsItem Brackets.splitText
  rw [if_pos (by decide), hsep]
  constructor
  · intro h
    obtain ⟨parts, hparts, hmap⟩ := Brackets.map_eq_ok.1 h
    refine Brackets.isPart_of_split hparts ?_
    have hlength := congrArg List.length hmap
    simp only [List.length_map, List.length_singleton] at hlength
    omega
  · intro h
    dsimp only
    rw [h.split]
    simp [Except.map]

theorem toList_join (xs : List String) :
    (join "," xs).toList = [','].intercalate (xs.map String.toList) := by
  rw [join, String.toList_intercalate]
  rfl

theorem IsItemList.trim_join {xs : List String} (h : IsItemList xs) :
    trim (join "," xs).toList ≠ [] := by
  rw [toList_join]
  match xs, h with
  | [], h => exact absurd rfl h.nonempty
  | [x], h => simpa using h.notBlank x rfl
  | x :: y :: xs, _ =>
    -- The comma between two items is no blank.
    have hcomma : ',' ∈ [','].intercalate ((x :: y :: xs).map String.toList) := by
      rw [List.map_cons, List.map_cons, List.intercalate_cons_cons]
      simp
    exact List.ne_nil_of_mem (mem_trimBy (by decide) hcomma)

theorem splitValues_join {xs : List String} (h : IsItemList xs) :
    splitValues (join "," xs).toList none = xs.map fun x => trim x.toList := by
  have hparts : Brackets.split (· == ',') none (join "," xs).toList = .ok (xs.map String.toList) := by
    rw [toList_join]
    refine Brackets.split_of_parts (by decide) (by decide) rfl (by simpa using h.nonempty) ?_
    intro w hw
    obtain ⟨x, hx, rfl⟩ := List.mem_map.1 hw
    exact isItem_iff.1 (h.item x hx)
  have hne : (trim (join "," xs).toList).isEmpty = false := by simpa using h.trim_join
  rw [splitValues, hne, hparts]
  simp

/-! ## Converting -/

namespace Conversion

variable {V C : Type} {k : Surroundings (Except Fault) V C} {text : String → V} {list : List V → V}

/-- Texts are values of their own, and lists of any values are. -/
structure HoldsTexts (k : Surroundings (Except Fault) V C) (text : String → V)
    (list : List V → V) : Prop where
  see (s : String) : k.see (text s) = .ok (.text s)
  ofDatum (s : String) : k.ofDatum (.text s) = .ok (text s)
  list (vs : List V) : k.list vs = .ok (list vs)

theorem dataSurroundings_holdsTexts : HoldsTexts dataSurroundings .text .list where
  see _ := rfl
  ofDatum _ := rfl
  list _ := rfl

theorem listItems?_text (hk : HoldsTexts k text list) (s : String) :
    listItems? k (text s) =
      .ok (some ((splitValues s.toList none).map fun p => text (String.ofList p))) := by
  have hparts : (splitValues s.toList none).mapM (fun p => k.ofDatum (.text (String.ofList p))) =
      .ok ((splitValues s.toList none).map fun p => text (String.ofList p)) := by
    simp only [hk.ofDatum]
    exact List.mapM_pure
  rw [listItems?, hk.see, ok_bind]
  dsimp only
  rw [hparts]
  rfl

theorem convertAs_join (hk : HoldsTexts k text list) {xs : List String} (hxs : IsItemList xs)
    {t : TypeExpr} {rs : List V}
    (hrs : List.Forall₂ (fun x r => convertAs k false (text (trimText x)) t = .ok r) xs rs) :
    convertAs k false (text (join "," xs)) (.array t) = .ok (list rs) := by
  have hitems := listItems?_text hk (join "," xs)
  rw [splitValues_join hxs, List.map_map] at hitems
  have hrs : (xs.map fun x => text (trimText x)).mapM (convertAs k false · t) = .ok rs :=
    mapM_eq_ok_iff.2 (List.forall₂_map_left_iff.2 hrs)
  rw [convertAs_array (hk.see _) nofun hitems hrs, hk.list]

/-! ## Lists of integers -/

theorem convertAs_number {d : Datum} {q : Quantity} (hd : d ≠ .null) (h : d.toNumber = .ok q) :
    convertAs dataSurroundings false d (.scalar "number") = .ok (Datum.ofQuantity q) := by
  rw [convertAs_primitive hd (p := .number) rfl, coerce_number, h]
  rfl

/-- The text is an integer with blanks around it, which is not written with more digits than can be
read. -/
structure Writes (n : Int) (x : String) : Prop where
  text : trimText x = toString n
  short : n.natAbs < 10 ^ maxDigits

theorem toNumber_toString {n : Int} (h : n.natAbs < 10 ^ maxDigits) :
    (Datum.text (toString n)).toNumber = .ok (.whole n) := by
  have htrim : trim (toString n).toList = (toString n).toList :=
    isTrimmed_of_numeral (isNumeral_toString_int n)
  rw [Datum.toNumber, readQuantity?, htrim, readInt?_toString h]

theorem Writes.convertAs {n : Int} {x : String} (h : Writes n x) :
    convertAs dataSurroundings false (.text (trimText x)) (.scalar "number") = .ok (.int n) := by
  rw [h.text]
  exact convertAs_number (d := .text (toString n)) nofun (toNumber_toString h.short)

theorem Writes.trim_eq {n : Int} {x : String} (h : Writes n x) :
    trim x.toList = (toString n).toList := by
  rw [← h.text, trimText, String.toList_ofList]

theorem isPlain_of_isNumeral {c : Char} (h : IsNumeral c) : Brackets.IsPlain c := by
  refine Brackets.isPlain_of_holds
    (q := fun c => c.isDigit || ['.', 'e', '+', '-', 'i', 'n', 'f', 'a'].contains c) (by decide) ?_
  obtain h | h := h
  · simp [h]
  · simp only [List.contains_iff_mem.2 h, Bool.or_true]

/-- The digits of an integer and the blanks around them are plain characters. -/
theorem Writes.isItem {n : Int} {x : String} (h : Writes n x) : IsItem x := by
  have hblank {c : Char} (hc : isBlank c = true) : Brackets.IsPlain c ∧ (c == ',') = false := by
    refine ⟨(Brackets.isPlain_of_isBlank hc).1, beq_eq_false_iff_ne.2 ?_⟩
    rintro rfl
    cases hc
  obtain ⟨a, b, ha, hb, hx⟩ := trim_append x.toList
  rw [isItem_iff, ← hx, h.trim_eq]
  refine .of_plain fun c hc => ?_
  obtain (hc | hc) | hc := by simpa only [List.mem_append] using hc
  · exact hblank (ha c hc)
  · have hnumeral := isNumeral_toString_int n c hc
    exact ⟨isPlain_of_isNumeral hnumeral, beq_eq_false_iff_ne.2 hnumeral.notBlank.2.1⟩
  · exact hblank (hb c hc)

theorem Writes.isItemList {ns : List Int} {xs : List String} (h : List.Forall₂ Writes ns xs)
    (hne : xs ≠ []) : IsItemList xs where
  nonempty := hne
  item := by
    clear hne
    induction h with
    | nil => exact nofun
    | cons hn _ ih => exact List.forall_mem_cons.2 ⟨hn.isItem, ih⟩
  notBlank x hx := by
    subst hx
    cases h with
    | cons hn _ =>
      rw [hn.trim_eq, toList_toString_int]
      simp

theorem convertAs_ints {d : Datum} {ns : List Int} (hnull : d ≠ .null)
    (hitems : listItems? dataSurroundings d = .ok (some (ns.map .int))) :
    convertAs dataSurroundings false d (.array (.scalar "number")) = .ok (.list (ns.map .int)) := by
  have hrs : (ns.map Datum.int).mapM
      (fun item => convertAs dataSurroundings false item (.scalar "number")) =
        .ok (ns.map Datum.int) := by
    refine mapM_eq_ok_iff.2 (List.forall₂_same.2 fun d hd => ?_)
    obtain ⟨n, -, rfl⟩ := List.mem_map.1 hd
    exact convertAs_number (d := .int n) (q := .whole n) nofun rfl
  exact convertAs_array rfl hnull hitems hrs

/-- The integers are read from the text, the empty list from the empty text. -/
theorem convertAs_join_ints {ns : List Int} {xs : List String} (h : List.Forall₂ Writes ns xs) :
    convertAs dataSurroundings false (.text (join "," xs)) (.array (.scalar "number")) =
      .ok (.list (ns.map .int)) := by
  by_cases hne : xs = []
  · subst hne
    cases h
    exact convertAs_ints nofun rfl
  · refine convertAs_join dataSurroundings_holdsTexts (Writes.isItemList h hne) ?_
    exact List.forall₂_map_right_iff.2 (h.flip.imp fun _ _ hn => hn.convertAs)

theorem convert_join_eq_ok (hk : HoldsTexts k text list) {xs : List String} (hxs : IsItemList xs)
    {traced : Bool} {t : TypeExpr} {rs : List V}
    (hrs : List.Forall₂ (fun x r => (k.convert traced (text (trimText x)) t).1 = .ok r) xs rs) :
    (k.convert traced (text (join "," xs)) (.array t)).1 = .ok (list rs) := by
  -- A conversion keeps its notes itself, so that those of the surroundings may be left out.
  let silent : Surroundings (Except Fault) V C := { k with note := fun _ => pure () }
  have hsilent : k.convert = silent.convert := rfl
  have hnote : ∀ n, silent.note n = pure () := fun _ => rfl
  have hholds : HoldsTexts silent text list := ⟨hk.see, hk.ofDatum, hk.list⟩
  rw [hsilent, convert_fst hnote]
  refine convertAs_join hholds hxs (hrs.imp fun x r hr => ?_)
  rwa [hsilent, convert_fst hnote] at hr

/-- A list that is written with commas between its items is taken apart into the items, in order and
without the blanks around them, and is converted to the list of what they are converted to, whatever
the values and constructors are. In particular, a list of integers is read from its text, and is
converted to itself. -/
theorem lists_of_texts_and_integers :
    (∀ xs : List String, IsItemList xs →
      splitValues (join "," xs).toList none = (xs.map fun x => trim x.toList) ∧
      ∀ {V C : Type} {k : Surroundings (Except Fault) V C} {text : String → V} {list : List V → V},
        HoldsTexts k text list → ∀ (traced : Bool) (t : TypeExpr) (rs : List V),
          List.Forall₂ (fun x r => (k.convert traced (text (trimText x)) t).1 = .ok r) xs rs →
            (k.convert traced (text (join "," xs)) (.array t)).1 = .ok (list rs)) ∧
    ∀ (traced : Bool) (ns : List Int),
      (∀ xs, List.Forall₂ Writes ns xs →
        ((Datum.text (join "," xs)).convert traced (TypeExpr.ofText false "Array.<number>")).1 =
          .ok (.list (ns.map .int))) ∧
      ∀ d ∈ [Datum.list (ns.map .int), .tuple (ns.map .int)],
        (d.convert traced (TypeExpr.ofText false "Array.<number>")).1 = .ok (.list (ns.map .int)) := by
  have htype : TypeExpr.ofText false "Array.<number>" = .array (.scalar "number") := by
    have hformed : TypeExpr.WellFormed false (.array (.scalar "number")) := .array (.scalar (by decide))
    exact hformed.ofText_format
  refine ⟨fun xs hxs => ⟨splitValues_join hxs, fun hk _ _ _ => convert_join_eq_ok hk hxs⟩, ?_⟩
  intro traced ns
  simp only [htype, convert_eq_convertAs]
  refine ⟨fun xs => convertAs_join_ints, ?_⟩
  simp only [List.forall_mem_cons]
  exact ⟨convertAs_ints nofun rfl, convertAs_ints nofun rfl, nofun⟩

/-- Commas inside of brackets and quotes separate nothing, and blanks around items are left out. -/
theorem lists_of_quotes_and_integers :
    let quotes := ["(1, 2)", " \"a,b\" ", "x"]
    let numbers := [" 1", "-20 ", "300"]
    splitValues (join "," quotes).toList none = ["(1, 2)", "\"a,b\"", "x"].map String.toList ∧
      ((Datum.text (join "," quotes)).convert false (.array (.scalar "string"))).1 =
        .ok (.list [.text "(1, 2)", .text "\"a,b\"", .text "x"]) ∧
      ((Datum.text (join "," numbers)).convert true (TypeExpr.ofText false "Array.<number>")).1 =
        .ok (.list [.int 1, .int (-20), .int 300]) := by
  intro quotes numbers
  have hquotes : IsItemList quotes := ⟨by decide, by decide, by simp [quotes]⟩
  have htext (s : String) : ((Datum.text s).convert false (.scalar "string")).1 = .ok (.text s) := by
    rw [convert_eq_convertAs, convertAs_primitive (d := .text s) (p := .string) nofun rfl]
    rfl
  have hrs : List.Forall₂
      (fun x r => ((Datum.text (trimText x)).convert false (.scalar "string")).1 = .ok r) quotes
      [.text "(1, 2)", .text "\"a,b\"", .text "x"] :=
    .cons (htext _) (.cons (htext _) (.cons (htext _) .nil))
  have hwrites : List.Forall₂ Writes [1, -20, 300] numbers :=
    .cons ⟨rfl, by decide +kernel⟩ (.cons ⟨rfl, by decide +kernel⟩ (.cons ⟨rfl, by decide +kernel⟩ .nil))
  obtain ⟨hitems, hints⟩ := lists_of_texts_and_integers
  obtain ⟨hsplit, hconvert⟩ := hitems quotes hquotes
  exact ⟨hsplit, hconvert dataSurroundings_holdsTexts false _ _ hrs, (hints true _).1 _ hwrites⟩

end Conversion

end SceneBridge
