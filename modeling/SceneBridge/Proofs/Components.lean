import SceneBridge.Convert.Coercion
import SceneBridge.Proofs.NumberText
import SceneBridge.Proofs.Scans

/-!
# Components and parts of texts

A text of numbers is taken apart at every comma, or only at the commas outside of brackets and
quotes. The two ways give different pieces only where there is a bracket or a quote, and then in
both of them some piece is no number: a number is written without such characters.
-/

namespace SceneBridge

open Text Number

/-! ## Characters of numbers -/

namespace Number

/-- What follows the digits of a decimal, with or without a point among them, is nothing or an
exponent alone. -/
theorem rest_of_readDecimal? {negative : Bool} {cs : List Char} {x : Float}
    (hx : readDecimal? negative cs = some x) :
    ∃ rest, (rest = (takeDigits cs).2 ∨
        ∃ tail, (takeDigits cs).2 = '.' :: tail ∧ rest = (takeDigits tail).2) ∧
      (rest = [] ∨ ∃ e, takeExponent? rest = some (e, [])) := by
  unfold readDecimal? at hx
  dsimp only at hx
  split at hx
  on_goal 1 => refine ⟨_, .inr ⟨_, ‹_›, rfl⟩, ?_⟩
  on_goal 2 => refine ⟨_, .inl rfl, ?_⟩
  -- With or without a point, the same is read of what is left.
  all_goals
    split at hx
    · cases hx
    · split at hx
      · rename_i hrest
        exact .inl hrest
      · split at hx
        · rename_i e hexponent
          exact .inr ⟨e, hexponent⟩
        · cases hx

/-- A character that no number is written with. -/
structure IsForeign (c : Char) : Prop where
  notBlank : isBlank c = false
  notDigit : c.isDigit = false ∧ digitValue? c = none
  notPart : c ∉ ['+', '-', '_', '.', 'e', 'E']
  notWord : c.toLower ∉ "infinity".toList ++ "nan".toList

theorem isForeign_of_mark {c : Char} (h : c ∈ Brackets.marks) : IsForeign c := by
  simp only [Brackets.marks, List.mem_cons, List.not_mem_nil, or_false] at h
  obtain rfl | rfl | rfl | rfl | rfl | rfl | rfl | rfl | rfl := h
  all_goals exact ⟨rfl, ⟨rfl, rfl⟩, by decide, by decide⟩

namespace IsForeign

variable {c : Char} {cs : List Char}

theorem ne (h : IsForeign c) {d : Char} (hd : d ∈ ['+', '-', '_', '.', 'e', 'E']) : c ≠ d :=
  fun heq => h.notPart (heq ▸ hd)

theorem mem_takeSign (h : IsForeign c) (hc : c ∈ cs) : c ∈ (takeSign cs).2 := by
  cases cs with
  | nil => cases hc
  | cons d ds =>
    have hrest : d = '+' ∨ d = '-' → c ∈ ds := by
      intro hd
      obtain rfl | hds := List.mem_cons.1 hc
      · exact absurd hd (not_or.2 ⟨h.ne (by decide), h.ne (by decide)⟩)
      · exact hds
    rw [takeSign_cons]
    split
    · exact hrest (.inr ‹_›)
    · split
      · exact hrest (.inl ‹_›)
      · exact hc

theorem mem_takeDigits (h : IsForeign c) (hc : c ∈ cs) : c ∈ (takeDigits cs).2 := by
  have htail {d : Char} {ds : List Char} (hd : ¬ (!d.isDigit) = true) (hmem : c ∈ d :: ds) :
      c ∈ ds := by
    refine (List.mem_cons.1 hmem).resolve_left ?_
    rintro rfl
    rw [h.notDigit.1] at hd
    exact hd rfl
  fun_induction takeDigits cs with
  | case1 => cases hc
  | case2 d ds hd => exact hc
  | case3 d hd e es he r rest heq ih =>
    -- The underscore between two digits is left out, and is not the character.
    rw [heq] at ih
    exact ih ((List.mem_cons.1 (htail hd hc)).resolve_left (h.ne (by decide)))
  | case4 d hd e es he => exact htail hd hc
  | case5 d hd ds hds r rest heq ih =>
    rw [heq] at ih
    exact ih (htail hd hc)

theorem mem_numeralChars (h : IsForeign c) (hc : c ∈ cs) : c ∈ numeralChars cs := by
  have hblank : numeralBlank c = false := by
    rw [numeralBlank, h.notBlank, Bool.false_and]
  refine List.mem_map.2 ⟨c, mem_trimBy hblank hc, ?_⟩
  rw [h.notDigit.2]

theorem readInt?_eq (h : IsForeign c) (hc : c ∈ cs) : readInt? cs = none := by
  have hrest := h.mem_takeDigits (h.mem_takeSign (h.mem_numeralChars hc))
  have hleft := List.ne_nil_of_mem hrest
  simp [readInt?, hleft]

/-- Something is left behind the exponent. -/
theorem takeExponent?_ne (h : IsForeign c) (hc : c ∈ cs) (e : Int) :
    takeExponent? cs ≠ some (e, []) := by
  intro heq
  unfold takeExponent? at heq
  split at heq
  · rename_i d ds
    split at heq
    · rename_i hd
      have hne : c ≠ d := by
        simp only [Bool.or_eq_true, beq_iff_eq] at hd
        obtain rfl | rfl := hd <;> exact h.ne (by decide)
      have hrest := h.mem_takeDigits (h.mem_takeSign ((List.mem_cons.1 hc).resolve_left hne))
      have hleft := List.ne_nil_of_mem hrest
      dsimp only at heq
      split at heq
      · cases heq
      · exact hleft (Prod.mk.inj (Option.some.inj heq)).2
    · cases heq
  · cases heq

theorem readDecimal?_eq (h : IsForeign c) (hc : c ∈ cs) (negative : Bool) :
    readDecimal? negative cs = none := by
  rw [Option.eq_none_iff_forall_ne_some]
  intro x hx
  obtain ⟨rest, hrest, hend⟩ := rest_of_readDecimal? hx
  -- The character is still to come behind the digits.
  have hmem : c ∈ rest := by
    have hwhole := h.mem_takeDigits hc
    obtain rfl | ⟨tail, htail, rfl⟩ := hrest
    · exact hwhole
    · rw [htail] at hwhole
      exact h.mem_takeDigits ((List.mem_cons.1 hwhole).resolve_left (h.ne (by decide)))
  obtain rfl | ⟨e, hexponent⟩ := hend
  · cases hmem
  · exact h.takeExponent?_ne hmem e hexponent

theorem readFloat?_eq (h : IsForeign c) (hc : c ∈ cs) : readFloat? cs = none := by
  have hrest := h.mem_takeSign (h.mem_numeralChars hc)
  have hword (word : List Char) (hsub : word ⊆ "infinity".toList ++ "nan".toList) :
      ((takeSign (numeralChars cs)).2.map Char.toLower == word) = false := by
    rw [beq_eq_false_iff_ne]
    rintro rfl
    exact h.notWord (hsub (List.mem_map_of_mem hrest))
  unfold readFloat?
  simp only [hword _ (by decide : "inf".toList ⊆ _), hword _ (by decide : "infinity".toList ⊆ _),
    hword _ (by decide : "nan".toList ⊆ _), Bool.or_self, Bool.false_eq_true, if_false]
  exact h.readDecimal?_eq hrest _

theorem readQuantity?_eq (h : IsForeign c) (hc : c ∈ cs) : readQuantity? cs = none := by
  have htrim : c ∈ trim cs := mem_trimBy h.notBlank hc
  rw [readQuantity?, h.readInt?_eq htrim, h.readFloat?_eq htrim]

end IsForeign

end Number

/-! ## Taking apart -/

section Parts

variable {c : Char} {w : List Char}

/-- There are no more parts than commas make. -/
theorem length_splitValues_le (w : List Char) :
    (splitValues w none).length ≤ (splitOn ',' w).length := by
  unfold splitValues
  split
  · exact Nat.zero_le _
  · split
    · rename_i hparts
      rw [List.length_map]
      exact Brackets.length_le_of_splitFrom hparts
    · rw [Brackets.splitOnAtMost_none, List.length_map]

/-- A blank text has no components, and any other text has those between its commas. -/
theorem splitComponents_eq (w : List Char) :
    splitComponents w = if (trim w).isEmpty then [] else (splitOn ',' w).map trim := by
  by_cases hw : trim w = []
  · have hcomma : ',' ∉ w := by
      intro hmem
      exact List.ne_nil_of_mem (mem_trimBy (by decide) hmem) hw
    have hone : splitOn ',' w = [w] := by
      rw [Brackets.splitOn_eq, List.splitOn_eq_singleton hcomma]
    simp [splitComponents, hone, hw]
  · have hmany : (splitOn ',' w).map trim ≠ [[]] := by
      intro hone
      obtain ⟨p, hp, htrim⟩ := List.map_eq_singleton_iff.1 hone
      have hwhole := Brackets.intercalate_splitOn ',' w
      rw [hp, List.intercalate_singleton] at hwhole
      rw [hwhole] at htrim
      exact hw htrim
    have hne : (trim w).isEmpty = false := by simpa using hw
    rw [splitComponents, hne, if_neg Bool.false_ne_true]
    split
    · exact absurd ‹_› hmany
    · rfl

/-- Without brackets and quotes, the parts of a text are its components. -/
theorem splitValues_eq_splitComponents (h : ∀ c ∈ w, c ∉ Brackets.marks) :
    splitValues w none = splitComponents w := by
  rw [splitComponents_eq, splitValues]
  split
  · rfl
  · have hsplit : Brackets.split (· == ',') none w = .ok (splitOn ',' w) := by
      have hparts : Brackets.split (· == ',') none ([','].intercalate (splitOn ',' w)) =
          .ok (splitOn ',' w) := by
        refine Brackets.split_of_parts (by decide) (by decide) rfl (Brackets.splitOn_ne_nil _ _) ?_
        intro p hp
        refine .of_plain fun c hc => ?_
        obtain ⟨hmem, hcomma⟩ := Brackets.mem_flatten_splitOn.1 (List.mem_flatten.2 ⟨p, hp, hc⟩)
        exact ⟨Brackets.isPlain_of_notMem (h c hmem), beq_eq_false_iff_ne.2 hcomma⟩
      rwa [Brackets.intercalate_splitOn] at hparts
    rw [hsplit]

/-- A bracket or a quote in a text is in one of its components and in one of its parts. -/
theorem exists_mem_of_mark (hc : c ∈ Brackets.marks) (hw : c ∈ w) :
    (∃ p ∈ splitComponents w, c ∈ p) ∧ ∃ p ∈ splitValues w none, c ∈ p := by
  have hblank : isBlank c = false := (isForeign_of_mark hc).notBlank
  have hcomma : c ≠ ',' := ne_of_mem_of_not_mem hc (by decide)
  have hne : (trim w).isEmpty = false :=
    List.isEmpty_eq_false_iff.2 (List.ne_nil_of_mem (mem_trimBy hblank hw))
  have htrimmed {ps : List (List Char)} (hmem : c ∈ ps.flatten) : ∃ p ∈ ps.map trim, c ∈ p := by
    obtain ⟨p, hp, hcp⟩ := List.mem_flatten.1 hmem
    exact ⟨trim p, List.mem_map_of_mem hp, mem_trimBy hblank hcp⟩
  have hall := htrimmed (Brackets.mem_flatten_splitOn.2 ⟨hw, hcomma⟩)
  rw [splitComponents_eq, splitValues, hne, Brackets.splitOnAtMost_none]
  refine ⟨hall, ?_⟩
  rw [if_neg Bool.false_ne_true]
  split
  · rename_i hparts
    exact htrimmed (Brackets.mem_flatten_of_splitFrom hparts hw (beq_eq_false_iff_ne.2 hcomma))
  · exact hall

/-- Some part of a text is no number if and only if some component is none. -/
theorem exists_part_eq_none_iff (w : List Char) :
    (∃ p ∈ splitValues w none, readQuantity? p = none) ↔
      ∃ p ∈ splitComponents w, readQuantity? p = none := by
  by_cases hmark : ∃ c ∈ w, c ∈ Brackets.marks
  · -- However the text is split, the bracket or quote is in a piece, which is no number then.
    obtain ⟨c, hw, hc⟩ := hmark
    obtain ⟨⟨p, hp, hcp⟩, q, hq, hcq⟩ := exists_mem_of_mark hc hw
    have hforeign := isForeign_of_mark hc
    exact iff_of_true ⟨q, hq, hforeign.readQuantity?_eq hcq⟩ ⟨p, hp, hforeign.readQuantity?_eq hcp⟩
  · have hnone : ∀ c ∈ w, c ∉ Brackets.marks := fun c hw hc => hmark ⟨c, hw, hc⟩
    rw [splitValues_eq_splitComponents hnone]

/-- Where all parts of a text are numbers, they are its components. -/
theorem splitValues_eq_of_numbers (h : ∀ p ∈ splitValues w none, readQuantity? p ≠ none) :
    splitValues w none = splitComponents w := by
  refine splitValues_eq_splitComponents fun c hw hc => ?_
  obtain ⟨-, p, hp, hcp⟩ := exists_mem_of_mark hc hw
  exact h p hp ((isForeign_of_mark hc).readQuantity?_eq hcp)

end Parts

end SceneBridge
