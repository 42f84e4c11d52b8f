import SceneBridge.Proofs.Components
import SceneBridge.Proofs.HexColours
import SceneBridge.Proofs.PositionalSpellings

/-!
# Colour texts as attributes

A text that a colour is made of is converted to the same colour, unless the text is a number by
itself: then the number is what the colour is made of. Neither the name of a colour nor a text with
a mark in front of its digits is ever a number, so that this comes up for bare digits only.
-/

namespace SceneBridge

open Text Number

/-! ## Small letters -/

namespace Text

variable {c l : Char} {cs : List Char}

theorem smallChar_of_ascii (hc : c.toNat < 128) : smallChar c = [c.toLower] :=
  if_pos hc

/-- A character of ASCII in the small form of a text is the small form of a single character. -/
theorem exists_of_mem_smallFrom {before : List Char} (hl : l.toNat < 128)
    (h : l ∈ smallFrom before cs) : ∃ c ∈ cs, l ∈ smallChar c := by
  induction cs generalizing before with
  | nil => cases h
  | cons c cs ih =>
    rw [smallFrom] at h
    obtain h | h := List.mem_append.1 h
    · split at h
      · -- Neither of the two small forms of a sigma is of ASCII.
        have hsigma : ∀ b : Bool, l ≠ if b then Char.ofNat 0x3C2 else Char.ofNat 0x3C3 := by
          rintro b rfl
          cases b <;> exact absurd hl (by decide)
        exact absurd (List.mem_singleton.1 h) (hsigma _)
      · exact ⟨c, List.mem_cons_self, h⟩
    · obtain ⟨d, hd, hmem⟩ := ih h
      exact ⟨d, List.mem_cons_of_mem _ hd, hmem⟩

theorem mem_smallFrom {before : List Char} (hc : c.toNat < 128) (h : c ∈ cs) :
    c.toLower ∈ smallFrom before cs := by
  induction cs generalizing before with
  | nil => cases h
  | cons d cs ih =>
    rw [smallFrom]
    obtain rfl | h := List.mem_cons.1 h
    · have hsigma : c.toNat ≠ 0x3A3 := by omega
      rw [if_neg hsigma, smallChar_of_ascii hc]
      exact List.mem_append_left _ List.mem_cons_self
    · exact List.mem_append_right _ (ih h)

/-- Every span of capitals beyond ASCII has its small letters beyond ASCII too, except that the
sign for kelvins becomes a `k`. -/
theorem smallOffsets_beyond : ∀ entry ∈ smallOffsets,
    128 ≤ entry.1.first + entry.2 ∨ entry.1.first = entry.1.last ∧ entry.1.first + entry.2 = 107 := by
  decide +kernel

/-- Only two letters beyond ASCII have a small form with a letter of ASCII in it. -/
theorem eq_of_mem_smallChar (hc : ¬ c.toNat < 128) (hl : l.toNat < 128) (hzero : l ≠ Char.ofNat 0)
    (h : l ∈ smallChar c) : l = 'i' ∨ l = 'k' := by
  rw [smallChar, if_neg hc] at h
  split at h
  · simp only [List.mem_cons, List.not_mem_nil, or_false] at h
    obtain rfl | rfl := h
    · exact .inl rfl
    · exact absurd hl (by decide)
  · split at h
    · rename_i span offset hfound
      have hspan := List.find?_some hfound
      simp only [Span.contains, Bool.and_eq_true, decide_eq_true_eq] at hspan
      obtain rfl := List.mem_singleton.1 h
      obtain hbeyond | ⟨hone, hkelvin⟩ := smallOffsets_beyond _ (List.mem_of_find?_eq_some hfound)
      · -- What is no character counts as the one that was excluded.
        have hcode : ¬ (c.toNat + offset).toNat < 128 := by
          dsimp only at hbeyond
          omega
        by_cases hvalid : (c.toNat + offset).toNat.isValidChar
        · have hsame : (Char.ofNat (c.toNat + offset).toNat).toNat = (c.toNat + offset).toNat := by
            rw [Char.ofNat, dif_pos hvalid]
            rfl
          exact absurd (hsame ▸ hl) hcode
        · refine absurd ?_ hzero
          rw [Char.ofNat, dif_neg hvalid]
          rfl
      · have hcode : (c.toNat + offset).toNat = 107 := by
          dsimp only at hone hkelvin
          omega
        rw [hcode]
        exact .inr rfl
    · obtain rfl := List.mem_singleton.1 h
      exact absurd hl hc

end Text

namespace Colour

variable {c : Char} {s : String} {channels : List Float} {code : Nat}

/-! ## Names -/

/-- The letters of colour names that no number is written with, be they small or capitals. -/
def namingLetters : List Char :=
  "bcglmorw".toList

theorem exists_letter_of_name {entry : String × Nat} (h : entry ∈ named) :
    ∃ l ∈ namingLetters, l ∈ entry.1.toList := by
  have hall : named.all (fun e => namingLetters.any fun l => e.1.toList.contains l) = true := by
    decide +kernel
  simpa using List.all_eq_true.1 hall entry h

theorem isAlpha_of_name {entry : String × Nat} (h : entry ∈ named) (hc : c ∈ entry.1.toList) :
    c.isAlpha = true := by
  have hall : named.all (fun e => e.1.toList.all Char.isAlpha) = true := by decide +kernel
  exact List.all_eq_true.1 (List.all_eq_true.1 hall entry h) c hc

/-- Naming letters are letters of ASCII, and no small form of a letter beyond. -/
theorem namingLetter_ascii {l : Char} (hl : l ∈ namingLetters) :
    l.toNat < 128 ∧ l ≠ Char.ofNat 0 ∧ l ≠ 'i' ∧ l ≠ 'k' := by
  have hall : namingLetters.all (fun l => decide (l.toNat < 128 ∧ l ≠ Char.ofNat 0 ∧ l ≠ 'i' ∧
      l ≠ 'k')) = true := by decide
  exact of_decide_eq_true (List.all_eq_true.1 hall l hl)

/-- What has a naming letter for its small form is written in no number. -/
theorem isForeign_of_mem_smallChar {l : Char} (hl : l ∈ namingLetters) (h : l ∈ smallChar c) :
    IsForeign c := by
  obtain ⟨hascii, hzero, hi, hk⟩ := namingLetter_ascii hl
  by_cases hc : c.toNat < 128
  · rw [smallChar_of_ascii hc] at h
    have hlower : c.toLower ∈ namingLetters := List.mem_singleton.1 h ▸ hl
    have hall : c.toLower ∈ namingLetters → (isBlank c = false ∧
        (c.isDigit = false ∧ digitValue? c = none) ∧ c ∉ ['+', '-', '_', '.', 'e', 'E'] ∧
        c.toLower ∉ "infinity".toList ++ "nan".toList) :=
      forall_ascii (P := fun c => c.toLower ∈ namingLetters → (isBlank c = false ∧
        (c.isDigit = false ∧ digitValue? c = none) ∧ c ∉ ['+', '-', '_', '.', 'e', 'E'] ∧
        c.toLower ∉ "infinity".toList ++ "nan".toList)) (by decide +kernel) hc
    obtain ⟨hblank, hdigit, hpart, hword⟩ := hall hlower
    exact ⟨hblank, hdigit, hpart, hword⟩
  · obtain rfl | rfl := eq_of_mem_smallChar hc hascii hzero h
    · exact absurd rfl hi
    · exact absurd rfl hk

theorem mem_named (h : named.lookup (smallText (trimText s)) = some code) :
    (smallText (trimText s), code) ∈ named := by
  obtain ⟨before, after, hnamed, -⟩ := List.lookup_eq_some_iff.1 h
  rw [hnamed]
  exact List.mem_append_right _ List.mem_cons_self

theorem toList_smallText (s : String) :
    (smallText (trimText s)).toList = smallFrom [] (trim s.toList) := by
  rw [smallText, trimText, String.toList_ofList, String.toList_ofList, small]

/-- The name of a colour is no number. -/
theorem readQuantity?_of_name (h : named.lookup (smallText (trimText s)) = some code) :
    readQuantity? s.toList = none := by
  obtain ⟨l, hl, hmem⟩ := exists_letter_of_name (mem_named h)
  rw [toList_smallText] at hmem
  obtain ⟨c, hc, hsmall⟩ := exists_of_mem_smallFrom (namingLetter_ascii hl).1 hmem
  exact (isForeign_of_mem_smallChar hl hsmall).readQuantity?_eq (mem_of_mem_trim hc)

/-- The text of a name has no characters of ASCII but letters. -/
theorem lookup_eq_none (hc : c.toNat < 128) (hletter : c.toLower.isAlpha = false)
    (h : c ∈ trim s.toList) : named.lookup (smallText (trimText s)) = none := by
  rw [Option.eq_none_iff_forall_ne_some]
  intro code hcode
  have hsmall : c.toLower ∈ (smallText (trimText s)).toList := by
    rw [toList_smallText]
    exact mem_smallFrom hc h
  have halpha := isAlpha_of_name (mem_named hcode) hsmall
  rw [hletter] at halpha
  cases halpha

/-! ## Marks -/

/-- The characters of a text are those behind the mark, and those of the mark. -/
theorem mem_dropMark {t : List Char} (h : c ∈ t) :
    c ∈ dropMark t ∨ c ∈ ['#', '0', 'x', 'X'] := by
  unfold dropMark
  split
  all_goals
    simp only [List.mem_cons] at h ⊢
    tauto

/-- A text with a mark is no number. -/
theorem readQuantity?_of_mark (h : dropMark (trim s.toList) ≠ trim s.toList) :
    readQuantity? s.toList = none := by
  have hmark : '#' ∈ trim s.toList ∨ 'x' ∈ trim s.toList ∨ 'X' ∈ trim s.toList := by
    unfold dropMark at h
    split at h
    · rename_i htrim
      simp [htrim]
    · rename_i htrim
      simp [htrim]
    · rename_i htrim
      simp [htrim]
    · exact absurd rfl h
  have hforeign : IsForeign '#' ∧ IsForeign 'x' ∧ IsForeign 'X' :=
    ⟨⟨rfl, ⟨rfl, rfl⟩, by decide, by decide⟩, ⟨rfl, ⟨rfl, rfl⟩, by decide, by decide⟩,
      ⟨rfl, ⟨rfl, rfl⟩, by decide, by decide⟩⟩
  obtain hmem | hmem | hmem := hmark
  · exact hforeign.1.readQuantity?_eq (mem_of_mem_trim hmem)
  · exact hforeign.2.1.readQuantity?_eq (mem_of_mem_trim hmem)
  · exact hforeign.2.2.readQuantity?_eq (mem_of_mem_trim hmem)

/-! ## The single component -/

theorem IsByte.ne_comma {a b : Char} {n : Int} (h : IsByte a b n) : a ≠ ',' ∧ b ≠ ',' := by
  have hdigit (d : Nat) : ¬ IsDigit ',' d := by
    rw [← digit?_asAscii, show digit? (asAscii ',') = none by decide]
    exact nofun
  have hblank : numeralBlank ',' = false := by decide
  have hne {c : Char} {d : Nat} (hc : IsDigit c d) : c ≠ ',' := fun heq => hdigit d (heq ▸ hc)
  have hne' {c : Char} (hc : numeralBlank c = true) : c ≠ ',' := by
    rintro rfl
    cases hblank.symm.trans hc
  cases h with
  | digits ha hb => exact ⟨hne ha, hne hb⟩
  | plus hb => exact ⟨by decide, hne hb⟩
  | minus hb => exact ⟨by decide, hne hb⟩
  | blankBefore ha hb => exact ⟨hne' ha, hne hb⟩
  | blankAfter ha hb => exact ⟨hne ha, hne' hb⟩

theorem Reads.noComma {t : List Char} {bytes : List Int} (h : Reads t bytes) : ',' ∉ t := by
  cases h with
  | six hred hgreen hblue =>
    simp [hred.ne_comma.1.symm, hred.ne_comma.2.symm, hgreen.ne_comma.1.symm,
      hgreen.ne_comma.2.symm, hblue.ne_comma.1.symm, hblue.ne_comma.2.symm]
  | three hred hgreen hblue =>
    simp [hred.ne_comma.1.symm, hgreen.ne_comma.1.symm, hblue.ne_comma.1.symm]

/-- The text that a colour is made of is neither blank nor taken apart at commas. -/
theorem splitComponents_of_ofText (h : ofText s = .ok channels) :
    splitComponents s.toList = [trim s.toList] := by
  have hparts : trim s.toList ≠ [] ∧ ',' ∉ trim s.toList := by
    unfold ofText at h
    split at h
    · rename_i code hcode
      constructor
      · intro hempty
        obtain ⟨l, -, hmem⟩ := exists_letter_of_name (mem_named hcode)
        rw [toList_smallText, hempty] at hmem
        cases hmem
      · intro hcomma
        cases (lookup_eq_none (by decide) (by decide) hcomma).symm.trans hcode
    · obtain ⟨bytes, hreads, -⟩ := ofHex_eq_ok_iff.1 h
      constructor
      · intro hempty
        have hlength := hreads.length
        rw [hempty] at hlength
        exact absurd hlength (by decide)
      · intro hcomma
        obtain hmem | hmem := mem_dropMark hcomma
        · exact hreads.noComma hmem
        · exact absurd hmem (by decide)
  have hcomma : ',' ∉ s.toList := fun hmem => hparts.2 (mem_trimBy (by decide) hmem)
  have hsplit : splitOn ',' s.toList = [s.toList] := by
    rw [Brackets.splitOn_eq, List.splitOn_eq_singleton hcomma]
  rw [splitComponents_eq, hsplit]
  simp [hparts.1]

/-- Blanks around a colour text make no difference. -/
theorem ofText_trimText (h : ofText s = .ok channels) : ofText (trimText s) = .ok channels := by
  have htrim : trim (trim s.toList) = trim s.toList := isTrimmed_trim s.toList
  have hsame : trimText (trimText s) = trimText s := by
    rw [trimText, trimText, String.toList_ofList, htrim]
  have hlist : (trimText s).toList = trim s.toList := String.toList_ofList
  unfold ofText at h ⊢
  rw [hsame]
  split at h
  · exact h
  · rw [hlist, ofHex_eq_ok_iff, htrim]
    exact ofHex_eq_ok_iff.1 h

end Colour

/-! ## Conversion -/

namespace Conversion

variable {s : String} {channels : List Float}

theorem components_of_ofText (h : Colour.ofText s = .ok channels) :
    (Datum.text s).components =
      match readQuantity? s.toList with
      | some q => .ok [q]
      | none => .error (.notNumber (.text (trimText s))) := by
  have hread : readQuantity? (trim s.toList) = readQuantity? s.toList := by
    have htrim : trim (trim s.toList) = trim s.toList := isTrimmed_trim s.toList
    rw [readQuantity?, htrim, readQuantity?]
  rw [Datum.components, Colour.splitComponents_of_ofText h, List.mapM_cons, toNumber_part, hread,
    trimText]
  cases readQuantity? s.toList <;> rfl

/-- A colour is built of the numbers in a text, or else of the text without the blanks around it. -/
theorem buildValue_text (s : String) :
    buildValue dataSurroundings .color (.text s) =
      match (Datum.text s).components with
      | .ok qs => dataSurroundings.build .color (qs.map Datum.ofQuantity)
      | .error _ => dataSurroundings.build .color [.text (trimText s)] := by
  have haccepts : dataSurroundings.accepts .color (.text s) = .ok false := rfl
  have hlayout : dataSurroundings.layout .color = .ok .text := rfl
  have hdatum (d : Datum) : dataSurroundings.ofDatum d = .ok d := rfl
  rw [buildValue, haccepts, ok_bind, if_neg Bool.false_ne_true, see_bind, hlayout]
  cases (Datum.text s).components <;> simp only [ok_bind, hdatum, ofQuantities_eq]

/-- What the conversion of a colour text builds the colour of: the number that it is, or the text. -/
theorem convertAs_colourText (h : Colour.ofText s = .ok channels) :
    convertAs dataSurroundings false (.text s) (.scalar "Color") =
      orDegrade dataSurroundings false (.text s) (.scalar "Color") isBuildKind
        (.construction "Color") (dataSurroundings.build .color [
          match readQuantity? s.toList with
          | some q => Datum.ofQuantity q
          | none => .text (trimText s)]) := by
  have hname : ValueKind.ofTypeName? "Color" = some .color := ValueKind.ofTypeName?_name .color
  rw [convertAs_value (d := .text s) nofun hname, buildValue_text, components_of_ofText h]
  cases readQuantity? s.toList <;> rfl

/-- The constructor is handed the single number of a colour text, or else the text. -/
theorem convert_eq_orDegrade (traced : Bool) (h : Colour.ofText s = .ok channels) :
    ((Datum.text s).convert traced (TypeExpr.ofText false "Color")).1 =
      orDegrade dataSurroundings false (.text s) (.scalar "Color") isBuildKind
        (.construction "Color") (dataSurroundings.build .color [
          match readQuantity? s.toList with
          | some q => Datum.ofQuantity q
          | none => .text (trimText s)]) := by
  have htype : TypeExpr.ofText false "Color" = .scalar "Color" := ValueKind.ofText_name .color
  rw [convert_eq_convertAs, htype, convertAs_colourText h]

theorem build_color {d : Datum} {parts : List Float} (h : Colour.make [d] = .ok parts) :
    dataSurroundings.build .color [d] = .ok (.value (.ofClass "Color") .color parts) := by
  change (Colour.make [d] >>= fun parts => _) = _
  rw [h]
  rfl

theorem convert_of_noNumber (traced : Bool) (h : Colour.ofText s = .ok channels)
    (hnone : readQuantity? s.toList = none) :
    ((Datum.text s).convert traced (TypeExpr.ofText false "Color")).1 =
      .ok (.value (.ofClass "Color") .color channels) := by
  have htrimmed : Colour.make [.text (trimText s)] = .ok channels := by
    rw [Colour.make_text]
    exact Colour.ofText_trimText h
  rw [convert_eq_orDegrade traced h, hnone, build_color htrimmed, orDegrade_ok]

theorem convert_of_whole (traced : Bool) (h : Colour.ofText s = .ok channels) {n : Int}
    (hwhole : readQuantity? s.toList = some (.whole n)) :
    ((Datum.text s).convert traced (TypeExpr.ofText false "Color")).1 =
      .ok (.value (.ofClass "Color") .color (Colour.ofCode n)) := by
  have hcode : Colour.make [Datum.ofQuantity (.whole n)] = .ok (Colour.ofCode n) := rfl
  rw [convert_eq_orDegrade traced h, hwhole, build_color hcode, orDegrade_ok]

/-- No colour is made of a number with a fraction or an exponent. -/
theorem convert_of_real (traced : Bool) (h : Colour.ofText s = .ok channels) {x : Float}
    (hreal : readQuantity? s.toList = some (.real x)) :
    ((Datum.text s).convert traced (TypeExpr.ofText false "Color")).1 = .ok (.text s) := by
  rw [convert_eq_orDegrade traced h, hreal]
  exact orDegrade_of_caught rfl

/-- The text that a colour is made of is converted to the same colour if it is no number. As a whole
number it is converted to the colour of that number, and any other number passes through as the text.
Names of colours and texts with a mark are no numbers. -/
theorem convert_colourText (traced : Bool) (h : Colour.make [.text s] = .ok channels) :
    let result := ((Datum.text s).convert traced (TypeExpr.ofText false "Color")).1
    (readQuantity? s.toList = none →
      result = .ok (.value (.ofClass "Color") .color channels)) ∧
    (∀ n, readQuantity? s.toList = some (.whole n) →
      result = .ok (.value (.ofClass "Color") .color (Colour.ofCode n))) ∧
    (∀ x, readQuantity? s.toList = some (.real x) → result = .ok (.text s)) ∧
    ((Colour.named.lookup (smallText (trimText s))).isSome = true ∨
        Colour.dropMark (trim s.toList) ≠ trim s.toList → readQuantity? s.toList = none) := by
  rw [Colour.make_text] at h
  refine ⟨convert_of_noNumber traced h, fun n => convert_of_whole traced h,
    fun x => convert_of_real traced h, fun hmarked => ?_⟩
  obtain hname | hmark := hmarked
  · obtain ⟨code, hcode⟩ := Option.isSome_iff_exists.1 hname
    exact Colour.readQuantity?_of_name hcode
  · exact Colour.readQuantity?_of_mark hmark

/-- With a mark the digits are those of the colour; bare they are a decimal number, and with an
exponent among them they pass through. -/
theorem convert_of_marked_and_bare_digits :
    ((Datum.text "#112233").convert false (TypeExpr.ofText false "Color")).1 =
      .ok (.value (.ofClass "Color") .color (Colour.ofCode 0x112233)) ∧
    ((Datum.text "123456").convert false (TypeExpr.ofText false "Color")).1 =
      .ok (.value (.ofClass "Color") .color (Colour.ofCode 123456)) ∧
    ((Datum.text " 1e5").convert true (TypeExpr.ofText false "Color")).1 = .ok (.text " 1e5") := by
  have hmarked : Colour.make [.text "#112233"] = .ok (Colour.ofCode 0x112233) := by rfl
  have hbare : Colour.make [.text "123456"] = .ok (Colour.ofCode 0x123456) := by rfl
  have hexponent : Colour.make [.text " 1e5"] = .ok (Colour.ofCode 0x11EE55) := by rfl
  refine ⟨?_, ?_, ?_⟩
  · have h := convert_colourText false hmarked
    exact h.1 (h.2.2.2 (.inr (by decide +kernel)))
  · exact (convert_colourText false hbare).2.1 123456 (by rfl)
  · exact (convert_colourText true hexponent).2.2.1 100000 (by rfl)

/-- Not every text is converted to the colour that is made of it. -/
theorem not_convert_colourText : ¬ ∀ (s : String) (channels : List Float),
    Colour.make [.text s] = .ok channels →
      ((Datum.text s).convert false (TypeExpr.ofText false "Color")).1 =
        .ok (.value (.ofClass "Color") .color channels) := by
  intro hall
  have hmade : Colour.make [.text "123456"] = .ok (Colour.ofCode 0x123456) := by rfl
  have hread : readQuantity? "123456".toList = some (.whole 123456) := by rfl
  have hconverted : ((Datum.text "123456").convert false (TypeExpr.ofText false "Color")).1 =
      .ok (.value (.ofClass "Color") .color (Colour.ofCode 123456)) :=
    convert_of_whole false ((Colour.make_text _).symm.trans hmade) hread
  have hsame := (hall _ _ hmade).symm.trans hconverted
  have hchannels : Colour.ofCode 0x123456 = Colour.ofCode 123456 :=
    (Datum.value.inj (Except.ok.inj hsame)).2.2
  have hred : Colour.channel 0x12 = Colour.channel 0x01 := (List.cons.inj hchannels).1
  have hless : decide (Colour.channel 0x01 < Colour.channel 0x12) = true := by decide +kernel
  have hnot : decide (Colour.channel 0x01 < Colour.channel 0x01) = false := by decide +kernel
  rw [hred, hnot] at hless
  cases hless

end Conversion

end SceneBridge
