import Mathlib.Data.List.Basic
import Mathlib.Data.Nat.Digits.Defs
import SceneBridge.Number.Numeral
import SceneBridge.Number.Style
import SceneBridge.Proofs.Trimming

/-!
# The text of a double

Whatever the double, its exact text is made of digits and of a few other characters, with one
among them that no integer has: a point, the mark of an exponent, or a letter. So the text has
neither blanks nor commas, and is not taken for an integer.
-/

namespace SceneBridge.Number

open Text

/-! ## The characters of a text -/

/-- The characters of the texts of doubles. -/
def IsNumeral (c : Char) : Prop :=
  c.isDigit = true ∨ c ∈ ['.', 'e', '+', '-', 'i', 'n', 'f', 'a']

/-- A character that integers have not. -/
def IsTelling (c : Char) : Prop :=
  c ∈ ['.', 'e', 'n']

/-- The text of a double that is not taken for an integer. -/
structure IsFloatText (cs : List Char) : Prop where
  numeral : ∀ c ∈ cs, IsNumeral c
  telling : ∃ c ∈ cs, IsTelling c

/-- The digits that can be written in front of a point or an exponent. -/
def AllDigits (cs : List Char) : Prop :=
  ∀ c ∈ cs, c.isDigit = true

theorem allDigits_append {cs ds : List Char} (hcs : AllDigits cs) (hds : AllDigits ds) :
    AllDigits (cs ++ ds) :=
  fun c hc => (List.mem_append.1 hc).elim (hcs c) (hds c)

theorem allDigits_zeros (n : Nat) : AllDigits (List.replicate n '0') := by
  intro c hc
  rw [List.eq_of_mem_replicate hc]
  rfl

theorem allDigits_toString (n : Nat) : AllDigits (toString n).toList := by
  intro c hc
  rw [Nat.toString_eq_repr, Nat.toList_repr] at hc
  exact Nat.isDigit_of_mem_toDigits (by decide) (by decide) hc

theorem IsFloatText.append {cs ds : List Char} (hcs : ∀ c ∈ cs, IsNumeral c)
    (hds : IsFloatText ds) : IsFloatText (cs ++ ds) where
  numeral c hc := (List.mem_append.1 hc).elim (hcs c) (hds.numeral c)
  telling := by
    obtain ⟨c, hc, htelling⟩ := hds.telling
    exact ⟨c, List.mem_append_right cs hc, htelling⟩

/-- Digits around a character that tells a double from an integer. -/
theorem isFloatText_of_digits {cs ds : List Char} {c : Char} (hcs : AllDigits cs)
    (hc : IsNumeral c ∧ IsTelling c) (hds : ∀ d ∈ ds, IsNumeral d) : IsFloatText (cs ++ c :: ds) where
  numeral := by
    intro d hd
    obtain hd | rfl | hd := by simpa only [List.mem_append, List.mem_cons] using hd
    · exact .inl (hcs d hd)
    · exact hc.1
    · exact hds d hd
  telling := ⟨c, by simp, hc.2⟩

theorem isNumeral_of_allDigits {cs : List Char} (h : AllDigits cs) : ∀ c ∈ cs, IsNumeral c :=
  fun c hc => .inl (h c hc)

theorem point_telling : IsNumeral '.' ∧ IsTelling '.' := by
  simp [IsNumeral, IsTelling]

theorem isFloatText_positional {ds : List Char} (hds : AllDigits ds) (e : Int) :
    IsFloatText (positionalText true ds e).toList := by
  unfold positionalText
  split
  · have hzero : AllDigits ['0'] := by simp [AllDigits]
    have hrest := isNumeral_of_allDigits (allDigits_append (allDigits_zeros (-e - 1).toNat) hds)
    simpa using isFloatText_of_digits hzero point_telling hrest
  · have hpadded := allDigits_append hds (allDigits_zeros (e.toNat + 1 - ds.length))
    have hwhole : AllDigits ((ds ++ List.replicate (e.toNat + 1 - ds.length) '0').take (e.toNat + 1)) :=
      fun c hc => hpadded c (List.mem_of_mem_take hc)
    have hfraction : AllDigits ((ds ++ List.replicate (e.toNat + 1 - ds.length) '0').drop (e.toNat + 1)) :=
      fun c hc => hpadded c (List.mem_of_mem_drop hc)
    dsimp only
    split
    · have hzero : ∀ c ∈ ['0'], IsNumeral c := isNumeral_of_allDigits (by simp [AllDigits])
      simpa using isFloatText_of_digits hwhole point_telling hzero
    · simpa using isFloatText_of_digits hwhole point_telling (isNumeral_of_allDigits hfraction)

theorem allDigits_pushn (n : Nat) : AllDigits ("".pushn '0' n).toList := by
  rw [String.pushn_eq_repeat_push]
  induction n with
  | zero => simp [AllDigits, Nat.repeat]
  | succ n ih =>
    rw [Nat.repeat, String.toList_push]
    exact allDigits_append ih (by simp [AllDigits])

theorem isFloatText_exponent (e : Int) : IsFloatText (exponentText 2 e).toList := by
  have hdigits := isNumeral_of_allDigits (allDigits_append
    (allDigits_pushn (2 - (toString e.natAbs).length)) (allDigits_toString e.natAbs))
  have hmark : IsNumeral 'e' ∧ IsTelling 'e' := by simp [IsNumeral, IsTelling]
  have hsigned (sign : Char) (hsign : IsNumeral sign) : IsFloatText ([] ++ 'e' :: sign ::
      (("".pushn '0' (2 - (toString e.natAbs).length)).toList ++ (toString e.natAbs).toList)) :=
    isFloatText_of_digits nofun hmark (List.forall_mem_cons.2 ⟨hsign, hdigits⟩)
  unfold exponentText
  dsimp only
  split
  · simpa using hsigned '-' (by simp [IsNumeral])
  · simpa using hsigned '+' (by simp [IsNumeral])

theorem isFloatText_scientific {ds : List Char} (hds : AllDigits ds) (e : Int) :
    IsFloatText (scientificText ds e).toList := by
  unfold scientificText
  rw [String.toList_append, String.toList_ofList]
  refine .append ?_ (isFloatText_exponent e)
  split
  · rename_i d d' r
    have hall := List.forall_mem_cons.1 (isNumeral_of_allDigits hds)
    exact List.forall_mem_cons.2 ⟨hall.1, List.forall_mem_cons.2 ⟨point_telling.1, hall.2⟩⟩
  · exact isNumeral_of_allDigits hds

theorem isFloatText_writeBinary (b : Binary) : IsFloatText (Style.exact.writeBinary b).toList := by
  have hsign : ∀ c ∈ (if b.negative then "-" else "").toList, IsNumeral c := by
    cases b.negative <;> simp [IsNumeral]
  have hzero : IsFloatText (['0'] ++ '.' :: ['0']) :=
    isFloatText_of_digits (by simp [AllDigits]) point_telling
      (isNumeral_of_allDigits (by simp [AllDigits]))
  have hlayout (positional : Bool) {ds : List Char} (hds : AllDigits ds) (e : Int) :
      IsFloatText (if positional then positionalText true ds e else scientificText ds e).toList := by
    cases positional with
    | true => exact isFloatText_positional hds e
    | false => exact isFloatText_scientific hds e
  unfold Style.writeBinary
  dsimp only [Style.exact]
  split
  · rw [String.toList_append]
    exact hzero.append hsign
  · rw [String.toList_append]
    exact (hlayout _ (allDigits_toString _) _).append hsign

theorem isFloatText_nonFinite (x : Float) : IsFloatText (nonFiniteText x).toList := by
  have hword (cs : List Char) (h : cs ⊆ ['-', 'i', 'n', 'f', 'a']) (hn : 'n' ∈ cs) :
      IsFloatText cs := by
    refine ⟨fun c hc => .inr ?_, 'n', hn, by simp [IsTelling]⟩
    exact List.mem_append_right ['.', 'e', '+'] (h hc)
  unfold nonFiniteText
  split
  · exact hword _ (by decide) (by decide)
  · split
    · exact hword _ (by decide) (by decide)
    · exact hword _ (by decide) (by decide)

/-- Whatever the double, its exact text is not the text of an integer. -/
theorem isFloatText_write (x : Float) : IsFloatText (Style.exact.write x).toList := by
  unfold Style.write
  split
  · exact isFloatText_nonFinite x
  · exact isFloatText_writeBinary _

/-! ## Neither blanks nor commas, and no integer -/

theorem IsNumeral.notBlank {c : Char} (h : IsNumeral c) : isBlank c = false ∧ c ≠ ',' ∧ c ≠ '_' := by
  obtain h | h := h
  · have hrange : 48 ≤ c.toNat ∧ c.toNat ≤ 57 := Char.isDigit_iff_toNat.1 h
    refine ⟨?_, ?_, ?_⟩
    · simp only [isBlank, Bool.or_eq_false_iff, Bool.and_eq_false_iff, decide_eq_false_iff_not,
        beq_eq_false_iff_ne]
      omega
    · rintro rfl
      cases h
    · rintro rfl
      cases h
  · simp only [List.mem_cons, List.not_mem_nil, or_false] at h
    obtain rfl | rfl | rfl | rfl | rfl | rfl | rfl | rfl := h <;> decide

/-- The digits of a text are ASCII digits already. -/
theorem IsNumeral.digitValue? {c : Char} (h : IsNumeral c) :
    (match digitValue? c with
      | some d => Char.ofNat (48 + d)
      | none => c) = c := by
  obtain h | h := h
  · have hrange : 48 ≤ c.toNat ∧ c.toNat ≤ 57 := Char.isDigit_iff_toNat.1 h
    have hback : 48 + (c.toNat - 48) = c.toNat := by omega
    have hascii : c.toNat < 128 := by omega
    simp only [Text.digitValue?, hascii, h, if_true, hback, Char.ofNat_toNat]
  · simp only [List.mem_cons, List.not_mem_nil, or_false] at h
    obtain rfl | rfl | rfl | rfl | rfl | rfl | rfl | rfl := h <;> decide

theorem IsTelling.plain {c : Char} (h : IsTelling c) : c.isDigit = false ∧ c ≠ '-' ∧ c ≠ '+' := by
  simp only [IsTelling, List.mem_cons, List.not_mem_nil, or_false] at h
  obtain rfl | rfl | rfl := h <;> decide

/-- Without underscores, taking digits is taking them while there are some. -/
theorem takeDigits_eq {cs : List Char} (h : '_' ∉ cs) :
    takeDigits cs = (cs.takeWhile Char.isDigit, cs.dropWhile Char.isDigit) := by
  induction cs with
  | nil => rfl
  | cons c cs ih =>
    have hrest := ih fun hmem => h (List.mem_cons_of_mem c hmem)
    rw [takeDigits, hrest]
    · cases hc : c.isDigit with
      | false => simp [hc]
      | true => simp [hc]
    · rintro d ds rfl
      exact h (List.mem_cons_of_mem c List.mem_cons_self)

/-! ## Signs and digits -/

theorem takeSign_cons (c : Char) (cs : List Char) :
    takeSign (c :: cs) =
      if c = '-' then (true, cs) else if c = '+' then (false, cs) else (false, c :: cs) := by
  unfold takeSign
  split <;> simp_all

/-- Digits have no sign in front. -/
theorem takeSign_of_allDigits {ds : List Char} (h : AllDigits ds) : takeSign ds = (false, ds) := by
  cases ds with
  | nil => rfl
  | cons d ds =>
    have hd := h d List.mem_cons_self
    have hsign : d ≠ '-' ∧ d ≠ '+' := by
      constructor
      · rintro rfl
        cases hd
      · rintro rfl
        cases hd
    rw [takeSign_cons, if_neg hsign.1, if_neg hsign.2]

theorem takeDigits_of_allDigits {ds : List Char} (h : AllDigits ds) : takeDigits ds = (ds, []) := by
  have hnone : '_' ∉ ds := by
    intro hmem
    cases h _ hmem
  rw [takeDigits_eq hnone, List.takeWhile_eq_self_iff.2 h, List.dropWhile_eq_nil_iff.2 h]

/-! ## Integers -/

theorem digitsValue_toString (n : Nat) : digitsValue (toString n).toList = n := by
  rw [Nat.toString_eq_repr, Nat.toList_repr]
  exact Nat.ofDigitChars_toDigits (by decide) (by decide)

/-- An integer is written with digits behind a sign, if it has one. -/
theorem toList_toString_int (n : Int) :
    (toString n).toList = (if n < 0 then ['-'] else []) ++ (toString n.natAbs).toList := by
  rw [Int.toString_eq_repr, Int.repr_eq_if, Nat.toString_eq_repr]
  split
  · have hn : n.toNat = n.natAbs := by omega
    rw [hn, if_neg (by omega), List.nil_append]
  · have hn : (-n).toNat = n.natAbs := by omega
    rw [hn, if_pos (by omega), String.toList_append]
    rfl

theorem isNumeral_toString_int (n : Int) : ∀ c ∈ (toString n).toList, IsNumeral c := by
  intro c hc
  rw [toList_toString_int] at hc
  obtain hc | hc := List.mem_append.1 hc
  · split at hc
    · rw [List.mem_singleton.1 hc]
      simp [IsNumeral]
    · cases hc
  · exact .inl (allDigits_toString _ c hc)

theorem takeSign_toString_int (n : Int) :
    takeSign (toString n).toList = (decide (n < 0), (toString n.natAbs).toList) := by
  rw [toList_toString_int]
  by_cases hn : n < 0
  · rw [if_pos hn, List.singleton_append, takeSign_cons, if_pos rfl, decide_eq_true hn]
  · rw [if_neg hn, List.nil_append, takeSign_of_allDigits (allDigits_toString _), decide_eq_false hn]

section Numeral

variable {cs : List Char}

theorem isTrimmed_of_numeral (h : ∀ c ∈ cs, IsNumeral c) : IsTrimmed cs :=
  trimBy_eq_self fun c hc => (h c hc).notBlank.1

/-- The text of a number is in its normal form. -/
theorem numeralChars_of_numeral (h : ∀ c ∈ cs, IsNumeral c) : numeralChars cs = cs := by
  have hblank : ∀ c ∈ cs, numeralBlank c = false := by
    intro c hc
    rw [numeralBlank, (h c hc).notBlank.1, Bool.false_and]
  rw [numeralChars, trimBy_eq_self hblank]
  exact (List.map_congr_left fun c hc => (h c hc).digitValue?).trans (List.map_id cs)

/-- An integer that is written with as many digits as can be read is read back. -/
theorem readInt?_toString {n : Int} (h : n.natAbs < 10 ^ maxDigits) :
    readInt? (toString n).toList = some n := by
  have hlength : (toString n.natAbs).toList.length ≤ maxDigits := by
    rw [Nat.toString_eq_repr, Nat.toList_repr]
    exact Nat.toDigits_length 10 _ _ (by decide) h
  have hvalue : (if n < 0 then -(n.natAbs : Int) else n.natAbs) = n := by
    split <;> omega
  rw [readInt?, numeralChars_of_numeral (isNumeral_toString_int n), takeSign_toString_int]
  simp only [takeDigits_of_allDigits (allDigits_toString _), digitsValue_toString]
  rw [if_neg (by simpa using hlength)]
  simp only [decide_eq_true_eq, hvalue]

end Numeral

namespace IsFloatText

variable {cs : List Char}

theorem isTrimmed (h : IsFloatText cs) : IsTrimmed cs :=
  isTrimmed_of_numeral h.numeral

theorem noComma (h : IsFloatText cs) : ',' ∉ cs :=
  fun hc => (h.numeral _ hc).notBlank.2.1 rfl

theorem numeralChars_eq (h : IsFloatText cs) : numeralChars cs = cs :=
  numeralChars_of_numeral h.numeral

/-- The text of a double is not read as an integer. -/
theorem readInt?_eq (h : IsFloatText cs) : readInt? cs = none := by
  obtain ⟨c, hc, htelling⟩ := h.telling
  have hplain := htelling.plain
  -- Only a sign is taken away in front, so the telling character stays.
  have hsign : ∃ negative rest, takeSign cs = (negative, rest) ∧ c ∈ rest ∧ ∀ d ∈ rest, d ∈ cs := by
    unfold takeSign
    split
    · exact ⟨_, _, rfl, (List.mem_cons.1 hc).resolve_left hplain.2.1, fun d => List.mem_cons_of_mem _⟩
    · exact ⟨_, _, rfl, (List.mem_cons.1 hc).resolve_left hplain.2.2, fun d => List.mem_cons_of_mem _⟩
    · exact ⟨_, _, rfl, hc, fun d hd => hd⟩
  obtain ⟨negative, rest, hsign, hrest, hsub⟩ := hsign
  have hnone : '_' ∉ rest := fun hmem => (h.numeral _ (hsub _ hmem)).notBlank.2.2 rfl
  have hleft : rest.dropWhile Char.isDigit ≠ [] := fun hnil => by
    have hall := List.dropWhile_eq_nil_iff.1 hnil c hrest
    rw [hplain.1] at hall
    cases hall
  rw [readInt?, h.numeralChars_eq, hsign]
  simp [takeDigits_eq hnone, hleft]

end IsFloatText

end SceneBridge.Number
