import Mathlib.Data.List.Forall2
import SceneBridge.Entries
import SceneBridge.Proofs.Memo
import SceneBridge.Proofs.TypeForms
import SceneBridge.TypeExpr.Printer

/-!
# Reading what was written

The text of a well-formed type has the form of the type, and the texts of its parts are
read back one by one. Alternatives are written without parentheses, so that only a choice
without choices among its alternatives comes back as it was.
-/

namespace SceneBridge.TypeExpr

open Text Brackets

/-! ## Well-formed types -/

/-- The characters that have a meaning in a type text. -/
def reserved : List Char :=
  ['<', '>', '\x7b', '\x7d', '[', ']', '(', ')', '"', '|', ',']

/-- A name that the grammar does not take apart. -/
structure IsScalarName (name : String) : Prop where
  nonempty : name.toList ≠ []
  trimmed : IsTrimmed name.toList
  unreserved : ∀ c ∈ name.toList, c ∉ reserved

/-- A name that the grammar finds in front of a colon. -/
structure IsFieldName (name : String) : Prop extends IsScalarName name where
  noColon : ':' ∉ name.toList
  noQuote : '\'' ∉ name.toList

instance (name : String) : Decidable (IsScalarName name) :=
  decidable_of_iff
    (name.toList ≠ [] ∧ IsTrimmed name.toList ∧ name.toList.all (!reserved.contains ·) = true)
    ⟨fun ⟨hne, ht, hc⟩ => ⟨hne, ht, by simpa using hc⟩,
      fun ⟨hne, ht, hc⟩ => ⟨hne, ht, by simpa using hc⟩⟩

instance (name : String) : Decidable (IsFieldName name) :=
  decidable_of_iff (IsScalarName name ∧ ':' ∉ name.toList ∧ '\'' ∉ name.toList)
    ⟨fun ⟨hs, hc, hq⟩ => ⟨hs, hc, hq⟩, fun ⟨hs, hc, hq⟩ => ⟨hs, hc, hq⟩⟩

/-- A choice of alternatives. -/
def isUnion : TypeExpr → Bool
  | .union _ => true
  | _ => false

/-- A type whose names the grammar can tell from the rest of the text. Choices may stand
among the alternatives of a choice only where `nested` is set. -/
inductive WellFormed (nested : Bool) : TypeExpr → Prop
  | scalar {name : String} (hname : IsScalarName name) : WellFormed nested (.scalar name)
  | array {element : TypeExpr} (helement : WellFormed nested element) :
      WellFormed nested (.array element)
  | union {as : List TypeExpr} (hlength : 2 ≤ as.length)
      (hflat : nested = false → ∀ a ∈ as, a.isUnion = false)
      (has : ∀ a ∈ as, WellFormed nested a) : WellFormed nested (.union as)
  | generic {name : String} {params : List TypeExpr} (hname : IsGenericHead name.toList)
      (hne : params ≠ []) (hparams : ∀ p ∈ params, WellFormed nested p) :
      WellFormed nested (.generic name params)
  | record {fields : List (String × TypeExpr)} (hdistinct : (fields.map (·.1)).Nodup)
      (hnames : ∀ f ∈ fields, IsFieldName f.1) (hfields : ∀ f ∈ fields, WellFormed nested f.2) :
      WellFormed nested (.record fields)

theorem IsScalarName.plain {name : String} (h : IsScalarName name) {c : Char}
    (hc : c ∈ name.toList) : IsPlain c ∧ c ≠ ',' ∧ c ≠ '|' := by
  have hc := h.unreserved c hc
  have hunreserved : (!reserved.contains c) = true := by simpa using hc
  refine ⟨isPlain_of_holds (q := fun d => !reserved.contains d) rfl hunreserved, ?_, ?_⟩
  · rintro rfl
    exact hc (by decide)
  · rintro rfl
    exact hc (by decide)

/-! ## Texts as joined parts -/

/-- The text of a record field. -/
def fieldChars (f : String × TypeExpr) : List Char :=
  f.1.toList ++ ':' :: ' ' :: f.2.chars

theorem charsOfAll_eq (sep : List Char) (ts : List TypeExpr) :
    charsOfAll sep ts = sep.intercalate (ts.map chars) := by
  induction ts with
  | nil => rfl
  | cons t ts ih =>
    cases ts with
    | nil => simp [charsOfAll]
    | cons u us =>
      rw [charsOfAll, ih]
      simp only [List.map_cons, List.intercalate_cons_cons]

theorem charsOfFields_eq (fs : List (String × TypeExpr)) :
    charsOfFields fs = [',', ' '].intercalate (fs.map fieldChars) := by
  induction fs with
  | nil => rfl
  | cons f fs ih =>
    obtain ⟨key, t⟩ := f
    cases fs with
    | nil => simp [charsOfFields, fieldChars]
    | cons g gs =>
      rw [charsOfFields, ih]
      simp [fieldChars, List.intercalate_cons_cons]

/-- The texts with a blank in front of all but the first. -/
def spaced : List (List Char) → List (List Char)
  | [] => []
  | w :: ws => w :: ws.map (' ' :: ·)

/-- The blank behind a comma belongs to the part that follows. -/
theorem intercalate_comma_blank (ws : List (List Char)) :
    [',', ' '].intercalate ws = [','].intercalate (spaced ws) := by
  induction ws with
  | nil => rfl
  | cons w ws ih =>
    cases ws with
    | nil => simp [spaced]
    | cons v vs =>
      rw [List.intercalate_cons_cons, ih]
      simp [spaced, List.intercalate_cons_cons]

theorem split_comma_blank {ws : List (List Char)} (hne : ws ≠ [])
    (hws : ∀ w ∈ ws, IsPart (· == ',') w) :
    split (· == ',') none ([',', ' '].intercalate ws) = .ok (spaced ws) := by
  have hblank : IsPart (· == ',') [' '] := .of_plain (List.forall_mem_singleton.2 (by decide))
  have hspaced : ∀ w ∈ spaced ws, IsPart (· == ',') w := by
    cases ws with
    | nil => exact absurd rfl hne
    | cons v vs =>
      intro w hw
      rcases List.mem_cons.1 hw with rfl | hw
      · exact hws w List.mem_cons_self
      · obtain ⟨u, hu, rfl⟩ := List.mem_map.1 hw
        exact hblank.append (hws u (List.mem_cons_of_mem _ hu)) fun _ => by decide
  have hspacedne : spaced ws ≠ [] := by
    cases ws with
    | nil => exact absurd rfl hne
    | cons v vs => exact List.cons_ne_nil _ _
  rw [intercalate_comma_blank]
  exact split_of_parts (by decide) (by decide) rfl hspacedne hspaced

/-- What is true of texts with or without a blank in front is true of spaced texts. -/
theorem forall₂_spaced {α : Type} {R : List Char → α → Prop} {f : α → List Char} (xs : List α)
    (hR : ∀ x ∈ xs, R (f x) x ∧ R (' ' :: f x) x) : List.Forall₂ R (spaced (xs.map f)) xs := by
  cases xs with
  | nil => exact .nil
  | cons x xs =>
    refine .cons (hR x List.mem_cons_self).1 ?_
    rw [List.map_map, List.forall₂_map_left_iff]
    exact List.forall₂_same.2 fun y hy => (hR y (List.mem_cons_of_mem _ hy)).2

/-! ## The text of a type is balanced and trimmed -/

variable {nested : Bool} {t : TypeExpr}

theorem balanced_fieldChars {f : String × TypeExpr} (hname : IsFieldName f.1)
    (hf : Balanced (· ≠ ',') f.2.chars) : Balanced (· ≠ ',') (fieldChars f) := by
  have hkey : Balanced (· ≠ ',') f.1.toList :=
    .of_plain fun c hc => ⟨(hname.plain hc).1, (hname.plain hc).2.1⟩
  exact hkey.append (.plain (by decide) (by decide) (.plain (by decide) (by decide) hf))

theorem balanced_of_mem_fields {fs : List (String × TypeExpr)} (hnames : ∀ f ∈ fs, IsFieldName f.1)
    (hfs : ∀ f ∈ fs, Balanced (· ≠ ',') f.2.chars) :
    ∀ w ∈ fs.map fieldChars, Balanced (· ≠ ',') w := by
  intro w hw
  obtain ⟨f, hf, rfl⟩ := List.mem_map.1 hw
  exact balanced_fieldChars (hnames f hf) (hfs f hf)

/-- Texts with balanced brackets may be joined by commas. -/
theorem balanced_joined {q : Char → Prop} {ws : List (List Char)} (hws : ∀ w ∈ ws, Balanced q w) :
    Balanced (fun _ => True) ([',', ' '].intercalate ws) := by
  refine .intercalate (.of_plain (by simp; decide)) fun w hw => ?_
  exact (hws w hw).mono fun _ _ => trivial

/-- No comma stands outside of the brackets of a type text, and no bar either, unless the type
is a choice. -/
theorem WellFormed.balanced (h : WellFormed nested t) :
    Balanced (fun c => c ≠ ',' ∧ (c = '|' → t.isUnion = true)) t.chars := by
  induction h with
  | scalar hname =>
    refine .of_plain fun c hc => ?_
    obtain ⟨hplain, hcomma, hbar⟩ := hname.plain hc
    exact ⟨hplain, hcomma, fun h => absurd h hbar⟩
  | array _ ih =>
    rw [chars_array]
    have hname : Balanced (fun c => c ≠ ',' ∧ c ≠ '|') "Array.".toList :=
      .of_plain (isPlain_of_all (by decide))
    have hwrap := hname.append (ih.enclose (o := '<') rfl)
    exact hwrap.mono fun c hc => ⟨hc.1, fun h => absurd h hc.2⟩
  | union _ _ _ ih =>
    rw [chars_union, charsOfAll_eq]
    refine .intercalate (.plain (by decide) ⟨by decide, fun _ => rfl⟩ .nil) fun w hw => ?_
    obtain ⟨a, ha, rfl⟩ := List.mem_map.1 hw
    exact (ih a ha).mono fun c hc => ⟨hc.1, fun _ => rfl⟩
  | @generic name params hname _ _ ih =>
    rw [chars_generic, charsOfAll_eq, List.append_assoc, List.cons_append]
    have hparams : ∀ w ∈ params.map chars, Balanced (· ≠ ',') w := by
      intro w hw
      obtain ⟨p, hp, rfl⟩ := List.mem_map.1 hw
      exact (ih p hp).mono fun _ h => h.1
    have hwrap := hname.isHead.balanced.append ((balanced_joined hparams).enclose (o := '<') rfl)
    exact hwrap.mono fun c hc => ⟨hc.1, fun h => absurd h hc.2⟩
  | @record fields _ hnames _ ih =>
    rw [chars_record, charsOfFields_eq]
    have hfields := balanced_of_mem_fields hnames fun f hf => (ih f hf).mono fun _ h => h.1
    exact (balanced_joined hfields).enclose (o := '\x7b') rfl

theorem WellFormed.noComma (h : WellFormed nested t) : Balanced (· ≠ ',') t.chars :=
  h.balanced.mono fun _ h => h.1

theorem isTrimmed_fieldChars {f : String × TypeExpr} (hname : IsFieldName f.1)
    (hf : IsTrimmed f.2.chars ∧ f.2.chars ≠ []) :
    IsTrimmed (fieldChars f) ∧ fieldChars f ≠ [] := by
  have h := hname.trimmed.surround hf.1 hname.nonempty hf.2 [':', ' ']
  rw [List.append_assoc] at h
  exact ⟨h, by simp [fieldChars]⟩

theorem WellFormed.isTrimmed (h : WellFormed nested t) : IsTrimmed t.chars ∧ t.chars ≠ [] := by
  induction h with
  | scalar hname => exact ⟨hname.trimmed, hname.nonempty⟩
  | array _ _ =>
    rw [chars_array]
    exact ⟨IsTrimmed.surround (by decide) (by decide) (by decide) (by decide) _, by simp⟩
  | @union as hlength _ _ ih =>
    rw [chars_union, charsOfAll_eq]
    have hne : as.map chars ≠ [] := by
      rw [← List.length_pos_iff, List.length_map]
      omega
    refine IsTrimmed.intercalate _ hne fun w hw => ?_
    obtain ⟨a, ha, rfl⟩ := List.mem_map.1 hw
    exact ih a ha
  | @generic name params hname _ _ _ =>
    rw [chars_generic]
    refine ⟨isTrimmed_iff.2 ⟨fun c hc => ?_, fun c hc => ?_⟩, by simp⟩
    · rw [List.append_assoc, List.head?_append_of_ne_nil _ hname.isHead.ne_nil] at hc
      have hstart := hname.starts
      rw [Option.mem_def.1 hc] at hstart
      exact isBlank_of_isNameStart hstart
    · rw [List.getLast?_concat, Option.mem_some_iff] at hc
      subst hc
      decide
  | record _ _ _ _ =>
    rw [chars_record]
    have h := IsTrimmed.surround (a := ['\x7b']) (b := ['\x7d']) (by decide) (by decide)
      (by decide) (by decide)
    exact ⟨h _, by simp⟩

theorem WellFormed.trim_chars (h : WellFormed nested t) : trim t.chars = t.chars :=
  h.isTrimmed.1

/-! ## Record fields -/

theorem cutAt?_append {sep : Char} {key : List Char} (h : sep ∉ key) (rest : List Char) :
    cutAt? sep (key ++ sep :: rest) = some (key, rest) := by
  induction key with
  | nil => simp [cutAt?]
  | cons c cs ih =>
    simp only [List.mem_cons, not_or] at h
    have hc : (c == sep) = false := beq_eq_false_iff_ne.2 (Ne.symm h.1)
    simp [cutAt?, hc, ih h.2]

/-- A field is taken apart at its colon. Blanks and quotes around the name make no difference. -/
theorem fieldOf_eq {key name : List Char} (hcolon : ':' ∉ key)
    (hkey : trimBy (fun c => c == '"' || c == '\'') (trim key) = name) (hne : name ≠ [])
    (rest : List Char) : fieldOf (key ++ ':' :: rest) = .ok (name, rest) := by
  have hempty : name.isEmpty = false := by simpa using hne
  rw [fieldOf, cutAt?_append hcolon]
  dsimp only
  rw [hkey, hempty]
  rfl

theorem IsFieldName.trimBy_quotes {name : String} (hname : IsFieldName name) :
    trimBy (fun c => c == '"' || c == '\'') name.toList = name.toList := by
  refine trimBy_eq_self fun c hc => ?_
  have hdouble : c ≠ '"' := (hname.plain hc).1.notQuote
  have hsingle : c ≠ '\'' := ne_of_mem_of_not_mem hc hname.noQuote
  simp [hdouble, hsingle]

theorem fieldOf_fieldChars {f : String × TypeExpr} (hname : IsFieldName f.1) :
    fieldOf (fieldChars f) = .ok (f.1.toList, ' ' :: f.2.chars) ∧
      fieldOf (' ' :: fieldChars f) = .ok (f.1.toList, ' ' :: f.2.chars) := by
  have hkey : trim f.1.toList = f.1.toList := hname.trimmed
  have hblank : ':' ∉ ' ' :: f.1.toList := by simp [hname.noColon]
  constructor
  · refine fieldOf_eq hname.noColon ?_ hname.nonempty _
    rw [hkey, hname.trimBy_quotes]
  · refine fieldOf_eq hblank ?_ hname.nonempty _
    rw [trim_cons_of_isBlank (by decide), hkey, hname.trimBy_quotes]

/-- The form of a record without its braces, from its fields. -/
theorem recordForm_of_parts {ws : List (List Char)} {fields : List (List Char × List Char)}
    (hne : ws ≠ []) (htrim : trim ([',', ' '].intercalate ws) ≠ [])
    (hws : ∀ w ∈ ws, IsPart (· == ',') w)
    (hfields : List.Forall₂ (fun pair f => fieldOf pair = .ok f) (spaced ws) fields) :
    recordForm ([',', ' '].intercalate ws) = .ok (.record fields) := by
  have hempty : (trim ([',', ' '].intercalate ws)).isEmpty = false := by simpa using htrim
  rw [recordForm, hempty, split_comma_blank hne hws]
  simp only [bind, Except.bind, mapM_eq_ok.2 hfields]
  rfl

/-- The form of the text of a record without its braces. -/
theorem recordForm_fields {fs : List (String × TypeExpr)} (hnames : ∀ f ∈ fs, IsFieldName f.1)
    (hfs : ∀ f ∈ fs, WellFormed nested f.2) :
    recordForm (charsOfFields fs) =
      .ok (.record (fs.map fun f => (f.1.toList, ' ' :: f.2.chars))) := by
  rw [charsOfFields_eq]
  by_cases hne : fs = []
  · subst hne
    rfl
  · have htexts : fs.map fieldChars ≠ [] := by simpa using hne
    have hbalanced := balanced_of_mem_fields hnames fun f hf => (hfs f hf).noComma
    have htrimmed : ∀ w ∈ fs.map fieldChars, IsTrimmed w ∧ w ≠ [] := by
      intro w hw
      obtain ⟨f, hf, rfl⟩ := List.mem_map.1 hw
      exact isTrimmed_fieldChars (hnames f hf) (hfs f hf).isTrimmed
    obtain ⟨hinner, hinnerne⟩ := IsTrimmed.intercalate [',', ' '] htexts htrimmed
    have hfields : List.Forall₂ (fun pair f => fieldOf pair = .ok f) (spaced (fs.map fieldChars))
        (fs.map fun f => (f.1.toList, ' ' :: f.2.chars)) :=
      List.forall₂_map_right_iff.2 (forall₂_spaced fs fun f hf => fieldOf_fieldChars (hnames f hf))
    have hparts : ∀ w ∈ fs.map fieldChars, IsPart (· == ',') w :=
      fun w hw => (hbalanced w hw).isPart_of_ne
    exact recordForm_of_parts htexts (by rwa [hinner]) hparts hfields

/-! ## Reading back -/

/-- The strict reading of the text of a type. -/
theorem WellFormed.parse_chars (h : WellFormed false t) : parse false t.chars = .ok t := by
  induction h with
  | @scalar name hname =>
    have hform : formOf false name.toList = .ok (.scalar name.toList) :=
      formOf_scalar hname.nonempty fun c hc => ⟨(hname.plain hc).1, (hname.plain hc).2.2⟩
    have htrim : trim name.toList = name.toList := hname.trimmed
    rw [chars_scalar, parse_eq, htrim, hform]
    simp [Except.bind]
  | @array element helement ih =>
    have htrim := (WellFormed.array helement).trim_chars
    rw [parse_eq, htrim, chars_array, formOf_array false helement.balanced.isPassed]
    simp [Except.bind, ih, Except.map]
  | @union as hlength hflat has ih =>
    have htrim := (WellFormed.union hlength hflat has).trim_chars
    -- Bars stand between the alternatives only, since none of these is a choice.
    have hbalanced : ∀ w ∈ as.map chars, Balanced (· ≠ '|') w := by
      intro w hw
      obtain ⟨a, ha, rfl⟩ := List.mem_map.1 hw
      refine (has a ha).balanced.mono fun c hc hbar => ?_
      rw [hflat rfl a ha] at hc
      exact absurd (hc.2 hbar) (by decide)
    have hread : parseAll false (as.map chars) = .ok as := by
      refine parseAll_eq_ok.2 ?_
      rw [List.forall₂_map_left_iff]
      exact List.forall₂_same.2 ih
    rw [parse_eq, htrim, chars_union, charsOfAll_eq, formOf_union hbalanced (by simpa using hlength)]
    simp [Except.bind, hread, Except.map]
  | @generic name params hname hne hparams ih =>
    have htrim := (WellFormed.generic hname hne hparams).trim_chars
    have hbalanced : ∀ w ∈ params.map chars, Balanced (· ≠ ',') w := by
      intro w hw
      obtain ⟨p, hp, rfl⟩ := List.mem_map.1 hw
      exact (hparams p hp).noComma
    have hread : parseAll false (spaced (params.map chars)) = .ok params := by
      refine parseAll_eq_ok.2 (forall₂_spaced params fun p hp => ⟨ih p hp, ?_⟩)
      rw [parse_congr (trim_cons_of_isBlank (by decide) _)]
      exact ih p hp
    have hjoined := balanced_joined hbalanced
    rw [parse_eq, htrim, chars_generic, charsOfAll_eq, List.append_assoc, List.cons_append,
      formOf_generic hname.isHead hjoined.isClosed hjoined.isPassed,
      split_comma_blank (by simpa using hne) (fun w hw => (hbalanced w hw).isPart_of_ne),
      hname.trimRightBy_eq]
    simp [Except.bind, hread, Except.map]
  | @record fields hdistinct hnames hfields ih =>
    have htrim := (WellFormed.record hdistinct hnames hfields).trim_chars
    have hbalanced : Balanced (fun _ => True) (charsOfFields fields) := by
      rw [charsOfFields_eq]
      exact balanced_joined (balanced_of_mem_fields hnames fun f hf => (hfields f hf).noComma)
    have hread : parseFields false (fields.map fun f => (f.1.toList, ' ' :: f.2.chars)) =
        .ok fields := by
      refine parseFields_eq_ok.2 ?_
      rw [List.forall₂_map_left_iff]
      refine List.forall₂_same.2 fun f hf => ⟨String.ofList_toList, ?_⟩
      rw [parse_congr (trim_cons_of_isBlank (by decide) _)]
      exact ih f hf
    -- No field takes the place of another one.
    have hput := Entries.putAll_of_nodup [] fields (by simpa using hdistinct)
    rw [parse_eq, htrim, chars_record, List.cons_append,
      formOf_record hbalanced.isClosed hbalanced.isPassed,
      recordForm_fields hnames hfields]
    simp only [Except.bind, hread, Except.map]
    exact congrArg (fun fs => Except.ok (TypeExpr.record fs)) hput

theorem WellFormed.ofText_format (h : WellFormed false t) : ofText false t.format = t := by
  rw [ofText, format, String.toList_ofList, h.parse_chars]

/-- Reading the text of a type gives the type, whatever was read before. -/
theorem WellFormed.read_format (h : WellFormed false t) {m : Memo} (hm : m.Reached)
    (limit : Nat) : (m.read limit false t.format).1 = t := by
  rw [hm.isFaithful.read_fst, h.ofText_format]

theorem read_format_nested :
    let t : TypeExpr := .union [
      .array (.union [.scalar "number", .generic "Map.Entry" [.scalar "a b", .array (.scalar "c")]]),
      .record [("x", .scalar "number"), ("y", .union [.scalar "string", .record []])]]
    ((Memo.empty.read 8 true t.format).2.read 8 false t.format).1 = t := by
  intro t
  have hunion (as : List TypeExpr) (hlength : 2 ≤ as.length) (hflat : ∀ a ∈ as, a.isUnion = false)
      (has : ∀ a ∈ as, WellFormed false a) : WellFormed false (.union as) :=
    .union hlength (fun _ => hflat) has
  have hentry : WellFormed false (.generic "Map.Entry" [.scalar "a b", .array (.scalar "c")]) := by
    refine .generic (by decide) (by decide) ?_
    simp only [List.forall_mem_cons]
    exact ⟨.scalar (by decide), .array (.scalar (by decide)), nofun⟩
  have hfield : WellFormed false (.union [.scalar "string", .record []]) := by
    refine hunion _ (by decide) (by decide) ?_
    simp only [List.forall_mem_cons]
    exact ⟨.scalar (by decide), .record (by decide) (by decide) nofun, nofun⟩
  have helement : WellFormed false
      (.union [.scalar "number", .generic "Map.Entry" [.scalar "a b", .array (.scalar "c")]]) := by
    refine hunion _ (by decide) (by decide) ?_
    simp only [List.forall_mem_cons]
    exact ⟨.scalar (by decide), hentry, nofun⟩
  have ht : WellFormed false t := by
    refine hunion _ (by decide) (by decide) ?_
    simp only [List.forall_mem_cons]
    refine ⟨.array helement, .record (by decide) (by decide) ?_, nofun⟩
    simp only [List.forall_mem_cons]
    exact ⟨.scalar (by decide), hfield, nofun⟩
  exact WellFormed.read_format ht (.read .empty 8 true t.format) 8

end SceneBridge.TypeExpr
