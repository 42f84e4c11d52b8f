import SceneBridge.Proofs.BarSplits
import SceneBridge.Proofs.MatchingBrackets

/-!
# Wrapped types

A text in a wrapper stands in parentheses, as the element of a list, as the parameters of a name, or
as the fields of a record. The grammar searches for the end of the bracket that opens the wrapper.
So it recognises the wrapper exactly if the brackets of the text match, those between quotes
included, and otherwise takes the whole for a name.
-/

namespace SceneBridge.TypeExpr

open Text Brackets

variable {w s front rest : List Char} {o k : Char}

/-! ## The first bracket of a text -/

/-- Only one opening bracket of a text is the first one. -/
theorem eq_of_first_opener {front' rest' : List Char} {o' k' : Char}
    (hfront : ∀ c ∈ front, IsPlain c) (hfront' : ∀ c ∈ front', IsPlain c) (ho : closer? o = some k)
    (ho' : closer? o' = some k') (heq : front ++ o :: rest = front' ++ o' :: rest') :
    front = front' := by
  induction front generalizing front' with
  | nil =>
    cases front' with
    | nil => rfl
    | cons d ds =>
      obtain ⟨rfl, -⟩ := List.cons_eq_cons.1 heq
      have hplain := (hfront' o List.mem_cons_self).notOpener
      rw [ho] at hplain
      cases hplain
  | cons c cs ih =>
    cases front' with
    | nil =>
      obtain ⟨rfl, -⟩ := List.cons_eq_cons.1 heq
      have hplain := (hfront c List.mem_cons_self).notOpener
      rw [ho'] at hplain
      cases hplain
    | cons d ds =>
      obtain ⟨rfl, htail⟩ := List.cons_eq_cons.1 heq
      rw [ih (fun c hc => hfront c (List.mem_cons_of_mem _ hc))
        (fun c hc => hfront' c (List.mem_cons_of_mem _ hc)) htail]

/-! ## Texts that are not recognised -/

/-- The search does not come from the first bracket of the text to its last character. -/
def IsUnwrapped (s : List Char) : Prop :=
  ∀ (before : List Char) {more : List Char} {o k : Char}, (∀ c ∈ before, IsPlain c) →
    closer? o = some k → s = before ++ o :: more → wraps s before.length = false

namespace IsUnwrapped

/-- The search misses the end of the first bracket if the brackets in between do not match. -/
theorem of_not_matched (hfront : ∀ c ∈ front, IsPlain c) (ho : closer? o = some k)
    (hw : ¬ Matched w) : IsUnwrapped (front ++ o :: (w ++ [k])) := by
  intro before more o' k' hbefore ho' heq
  obtain rfl := eq_of_first_opener hfront hbefore ho ho' heq
  rw [Bool.eq_false_iff, ne_eq, wraps_iff ho]
  exact hw

theorem head (h : IsUnwrapped s) (ho : closer? o = some k) :
    (s.head? == some o && wraps s 0) = false := by
  cases hhead : s.head? == some o with
  | false => rfl
  | true =>
    obtain ⟨more, hmore⟩ := exists_eq_cons hhead
    exact h [] nofun ho hmore

theorem named (h : IsUnwrapped s) (before : List Char) (hbefore : before.all isNameChar = true) :
    ((before ++ ['<']).isPrefixOf s && wraps s before.length) = false := by
  cases hprefix : (before ++ ['<']).isPrefixOf s with
  | false => rfl
  | true =>
    obtain ⟨more, hmore⟩ := List.isPrefixOf_iff_prefix.1 hprefix
    rw [List.append_assoc, List.singleton_append] at hmore
    exact h before (fun c hc => (isPlain_of_all hbefore c hc).1) (o := '<') rfl hmore.symm

theorem isBare (h : IsUnwrapped s) (hne : s ≠ []) : IsBare s where
  nonempty := hne
  notGroup := h.head (o := '(') rfl
  notDotted := h.named "Array.".toList (by decide)
  notArray := h.named "Array".toList (by decide)

/-- Neither parameters nor fields are recognised. -/
theorem innerForm_eq (h : IsUnwrapped s) (hlast : s.getLast? ≠ some ']') :
    innerForm s = (split (· == '|') none s).map fun _ => .scalar s := by
  have hrecord : (s.head? == some '\x7b' && wraps s 0) = false := h.head (o := '\x7b') rfl
  rw [innerForm, isSuffixOf_eq_false hlast, hrecord]
  cases hname : genericHead? s with
  | none => rfl
  | some found =>
    obtain ⟨name, i⟩ := found
    obtain ⟨blanks, rest, hheaded, rfl⟩ := isHeaded_of_genericHead? hname
    have hwraps : wraps s (name ++ blanks).length = false :=
      h (name ++ blanks) hheaded.isPlain (o := '<') rfl hheaded.eq
    simp only [hwraps, Bool.and_false]
    rfl

end IsUnwrapped

/-- A text is taken for a name if its first bracket ends where it ends, but the brackets in between
do not match. -/
theorem formOf_unmatched (front : List Char) (hfront : ∀ c ∈ front, IsPlain c ∧ c ≠ '|')
    (ho : closer? o = some k) (hk : k ≠ ']') (hw : IsClosed w) (hunmatched : ¬ Matched w) :
    formOf false (front ++ o :: (w ++ [k])) = .ok (.scalar (front ++ o :: (w ++ [k]))) := by
  have hunwrapped : IsUnwrapped (front ++ o :: (w ++ [k])) :=
    IsUnwrapped.of_not_matched (fun c hc => (hfront c hc).1) ho hunmatched
  have hnobar : IsPart (· == '|') front :=
    .of_plain fun c hc => ⟨(hfront c hc).1, beq_eq_false_iff_ne.2 (hfront c hc).2⟩
  have hpart : IsPart (· == '|') (front ++ o :: (w ++ [k])) :=
    hnobar.append (.enclose ho hw) fun hquote =>
      absurd (Option.some.inj hquote) (ne_quote_of_closer? ho)
  have hlast : (front ++ o :: (w ++ [k])).getLast? ≠ some ']' := by
    simp [List.getLast?_cons, hk]
  rw [formOf_single (hunwrapped.isBare (by simp)) hpart, hunwrapped.innerForm_eq hlast, hpart.split]
  rfl

/-! ## Wrappers -/

/-- The text with a wrapper around it, and the form that the grammar has for this. -/
inductive Wrapped (w : List Char) : List Char → Except Malformed Form → Prop
  | group : Wrapped w ('(' :: (w ++ [')'])) (.ok (.group w))
  | dotted : Wrapped w ("Array.".toList ++ '<' :: (w ++ ['>'])) (.ok (.array w))
  | array : Wrapped w ("Array".toList ++ '<' :: (w ++ ['>'])) (.ok (.array w))
  | generic {name : List Char} (hname : IsHead name) :
      Wrapped w (name ++ '<' :: (w ++ ['>']))
        ((split (· == ',') none w).map (.generic (trimRightBy (· == '.') name)))
  | record : Wrapped w ('\x7b' :: (w ++ ['\x7d'])) (recordForm w)

variable {form : Except Malformed Form} {naive : Bool}

theorem Wrapped.encloses (h : Wrapped w s form) : Encloses s w := by
  have hnamed {name : List Char} (hname : name.all isNameChar = true) :
      Encloses (name ++ '<' :: (w ++ ['>'])) w :=
    .mk (fun c hc => (isPlain_of_all hname c hc).1) rfl
  cases h with
  | group => exact (.mk nofun rfl : Encloses ([] ++ '(' :: (w ++ [')'])) w)
  | dotted => exact hnamed (by decide)
  | array => exact hnamed (by decide)
  | generic hname => exact hnamed (List.all_eq_true.2 fun c hc => hname.isNameChar hc)
  | record => exact (.mk nofun rfl : Encloses ([] ++ '\x7b' :: (w ++ ['\x7d'])) w)

theorem Wrapped.formOf_eq (h : Wrapped w s form) (hw : IsClosed w) (hmatched : Matched w) :
    formOf false s = form := by
  cases h with
  | group => exact formOf_group false hmatched.isPassed
  | dotted =>
    have harray := formOf_array false hmatched.isPassed
    rwa [List.append_assoc] at harray
  | array => exact formOf_array_undotted false hmatched.isPassed
  | generic hname => exact formOf_generic hname hw hmatched.isPassed
  | record => exact formOf_record hw hmatched.isPassed

theorem Wrapped.formOf_eq_scalar (h : Wrapped w s form) (hw : IsClosed w)
    (hunmatched : ¬ Matched w) : formOf false s = .ok (.scalar s) := by
  have hnamed {name : List Char} (hname : name.all isNameChar = true) :
      formOf false (name ++ '<' :: (w ++ ['>'])) = .ok (.scalar (name ++ '<' :: (w ++ ['>']))) := by
    refine formOf_unmatched name (fun c hc => ?_) (o := '<') rfl (by decide) hw hunmatched
    obtain ⟨hplain, -, hbar⟩ := isPlain_of_all hname c hc
    exact ⟨hplain, hbar⟩
  cases h with
  | group => exact formOf_unmatched [] nofun (o := '(') rfl (by decide) hw hunmatched
  | dotted => exact hnamed (by decide)
  | array => exact hnamed (by decide)
  | generic hname => exact hnamed (List.all_eq_true.2 fun c hc => hname.isNameChar hc)
  | record =>
    exact formOf_unmatched [] nofun (o := '\x7b') rfl (by decide) hw hunmatched

/-- Without bars the naive reading recognises the same wrappers. -/
theorem Wrapped.formOf_naive (h : Wrapped w s form) (hw : IsClosed w)
    (hbar : naive = true → '|' ∉ s) : formOf naive s = formOf false s := by
  cases naive with
  | false => rfl
  | true => exact formOf_congr_naive (isClosed_of_encloses h.encloses hw) (.of_notMem (hbar rfl))

/-! ## What the search finds -/

/-- In a text that can be split, the scan finds an end for each bracket that opens outside of
quotes, and the search comes to it exactly if all brackets in between match. A wrapper around the
text is recognised exactly if all brackets of the text match; the naive reading is left out where it
splits the wrapper at a bar. Without brackets between quotes all of them match, so that the search
always agrees. -/
theorem recognised_iff_matched {sep : Char → Bool} {budget : Option Nat} {text : List Char}
    {parts : List (List Char)} (htext : split sep budget text = .ok parts) :
    (∀ {i : Nat}, opensAt text i = true →
      (∃ j, PopsAt text i j) ∧
        ∀ {j : Nat}, PopsAt text i j →
          (matchingClose? text i = some j ↔ Matched (between text i j)) ∧
            (HidesNoBracket text → matchingClose? text i = some j)) ∧
    (∀ {s : List Char} {form : Except Malformed Form} {naive : Bool}, Wrapped text s form →
      (naive = true → '|' ∉ s) →
        (Matched text → formOf naive s = form) ∧
          (¬ Matched text → formOf naive s = .ok (.scalar s))) ∧
    (HidesNoBracket text → Matched text) := by
  have hclosed : IsClosed text := isClosed_iff.2 ⟨parts, htext⟩
  refine ⟨fun hi => ⟨?_, fun hj => ?_⟩, fun hs hbar => ?_, fun hquotes => hquotes.matched hclosed⟩
  · obtain ⟨j, hj, -⟩ := exists_popsAt hclosed hi
    exact ⟨j, hj⟩
  · have hiff := hj.matchingClose?_iff hclosed hi
    exact ⟨hiff, fun hquotes => hiff.2 (hquotes.matched_between hclosed hi hj)⟩
  · rw [hs.formOf_naive hclosed hbar]
    exact ⟨hs.formOf_eq hclosed, hs.formOf_eq_scalar hclosed⟩

theorem recognised_iff_matched_at_quoted_angle :
    split (· == ',') none "k[0]<\"<\">".toList = .ok ["k[0]<\"<\">".toList] ∧
      (∃ j, PopsAt "k[0]<\"<\">".toList 4 j) ∧
      (matchingClose? "k[0]<\"<\">".toList 1 = some 3 ↔
        Matched (between "k[0]<\"<\">".toList 1 3)) ∧
      formOf false "Array.<k[0]<\"<\">>".toList = .ok (.scalar "Array.<k[0]<\"<\">>".toList) := by
  have hsplit : split (· == ',') none "k[0]<\"<\">".toList = .ok ["k[0]<\"<\">".toList] := by decide
  obtain ⟨hsearch, hwrapped, -⟩ := recognised_iff_matched hsplit
  have hpops : PopsAt "k[0]<\"<\">".toList 1 3 := by decide
  have hunmatched : ¬ Matched "k[0]<\"<\">".toList := by decide
  refine ⟨hsplit, (hsearch (i := 4) (by decide)).1, ?_, ?_⟩
  · exact ((hsearch (i := 1) (by decide)).2 hpops).1
  · exact (hwrapped .dotted nofun).2 hunmatched

/-- The scan finds the end of the list type, the search does not, and the whole is a name. -/
theorem list_of_quoted_angle_is_name :
    (∃ parts, split (· == '|') none "Array.<\"<\">".toList = .ok parts) ∧
      opensAt "Array.<\"<\">".toList 6 = true ∧
      PopsAt "Array.<\"<\">".toList 6 10 ∧
      matchingClose? "Array.<\"<\">".toList 6 = none ∧
      ofText false "Array.<\"<\">" = .scalar "Array.<\"<\">" := by
  have hname : parse false "Array.<\"<\">".toList = .ok (.scalar "Array.<\"<\">") := by
    rw [parse_eq]
    rfl
  refine ⟨⟨["Array.<\"<\">".toList], by decide⟩, by decide, by decide, by decide, ?_⟩
  rw [ofText, hname]

end SceneBridge.TypeExpr
