import SceneBridge.Doc.Block
import SceneBridge.Proofs.TypeText

/-!
# Reading documentation back

Documentation is written as a summary and lines with tags, either indented or as a block comment.
Whatever the indentation and wherever blank lines stand, the block that is read has this summary
and these tags, each with the type and the description that it was written with.
-/

namespace SceneBridge

open Text Brackets

/-! ## Blanks and lines -/

/-- A text on one line. -/
def IsOneLine (cs : List Char) : Prop :=
  ∀ c ∈ cs, isLineEnd c = false

instance (cs : List Char) : Decidable (IsOneLine cs) :=
  decidable_of_iff (cs.all (!isLineEnd ·) = true) (by simp [IsOneLine])

/-- Blanks on one line. -/
structure IsIndent (cs : List Char) : Prop where
  blank : ∀ c ∈ cs, isBlank c = true
  oneLine : IsOneLine cs

instance (cs : List Char) : Decidable (IsIndent cs) :=
  decidable_of_iff (cs.all isBlank = true ∧ IsOneLine cs)
    ⟨fun h => ⟨List.all_eq_true.1 h.1, h.2⟩, fun h => ⟨List.all_eq_true.2 h.blank, h.oneLine⟩⟩

/-- Lines, one after the other. -/
def textOfLines (ls : List (List Char)) : String :=
  String.ofList (['\n'].intercalate ls)

/-! ## What is written -/

/-- A tag to be written. -/
structure WrittenTag where
  word : String
  type : TypeExpr
  description : String

namespace WrittenTag

/-- The text of a tag: an at sign and the word, the type in braces, and the description. -/
def chars (t : WrittenTag) : List Char :=
  '@' :: t.word.toList ++ ' ' :: '\x7b' :: t.type.format.toList ++ '\x7d' :: ' ' ::
    t.description.toList

/-- The tag that is to be read. -/
def toTag (t : WrittenTag) : DocTag :=
  ⟨t.word, t.type, t.type.format, t.description⟩

/-- The parts of a tag that can be told apart on its line. -/
structure IsReadable (t : WrittenTag) : Prop where
  wordNonempty : t.word.toList ≠ []
  wordChars : ∀ c ∈ t.word.toList, isWordChar c = true
  typeWellFormed : t.type.WellFormed false
  typeOneLine : IsOneLine t.type.format.toList
  trimmed : IsTrimmed t.description.toList
  oneLine : IsOneLine t.description.toList

end WrittenTag

/-- A summary that is not taken for a tag or for decoration. -/
structure IsSummary (s : String) : Prop where
  nonempty : s.toList ≠ []
  trimmed : IsTrimmed s.toList
  oneLine : IsOneLine s.toList
  noMark : ∀ c ∈ s.toList.head?, c ≠ '@' ∧ c ≠ '*' ∧ c ≠ '/'
  noTag : '@' ∉ s.toList

/-! ## Layouts -/

/-- How the lines of a documentation text are led in. -/
inductive DocStyle where
  /-- By blanks. -/
  | indented
  /-- By a star, between the marks of a block comment. -/
  | starred
deriving DecidableEq, Repr

/-- What leads a line in, behind its indentation. -/
def DocStyle.mark : DocStyle → List Char
  | indented => []
  | starred => ['*']

/-- The line shows a text, with blanks around it. -/
def Shows (style : DocStyle) (content line : List Char) : Prop :=
  ∃ indent gap trail, IsIndent indent ∧ IsIndent gap ∧ IsIndent trail ∧
    line = indent ++ style.mark ++ gap ++ content ++ trail

/-- The lines show the texts in their order, with blank lines anywhere. -/
inductive ShowsAll (style : DocStyle) : List (List Char) → List (List Char) → Prop where
  | nil : ShowsAll style [] []
  | blank {contents ls : List (List Char)} {line : List Char}
      (h : IsIndent line ∨ Shows style [] line) (hrest : ShowsAll style contents ls) :
      ShowsAll style contents (line :: ls)
  | content {contents ls : List (List Char)} {content line : List Char}
      (h : Shows style content line) (hrest : ShowsAll style contents ls) :
      ShowsAll style (content :: contents) (line :: ls)

/-- The line is a mark with blanks around it. -/
def IsMarkLine (mark line : List Char) : Prop :=
  ∃ indent trail, IsIndent indent ∧ IsIndent trail ∧ line = indent ++ mark ++ trail

/-- The lines of a documentation text that shows the texts. -/
inductive IsLaidOut (contents : List (List Char)) : DocStyle → List (List Char) → Prop where
  | indented {ls : List (List Char)} (h : ShowsAll .indented contents ls) :
      IsLaidOut contents .indented ls
  | starred {before body after : List (List Char)} {opening closing : List Char}
      (hbefore : ∀ l ∈ before, IsIndent l) (hopening : IsMarkLine ['/', '*', '*'] opening)
      (hbody : ShowsAll .starred contents body) (hclosing : IsMarkLine ['*', '/'] closing)
      (hafter : ∀ l ∈ after, IsIndent l) :
      IsLaidOut contents .starred (before ++ opening :: body ++ closing :: after)

/-! ## Type and tag -/

section Braces

variable {c : Char} {depth : Nat} {cs : List Char}

theorem readBraced_plain (hopen : c ≠ '\x7b') (hclose : c ≠ '\x7d') :
    readBraced depth (c :: cs) = (readBraced depth cs).map fun (l, r) => (c :: l, r) := by
  rw [readBraced.eq_def]
  simp [hopen, hclose]

theorem readBraced_open :
    readBraced depth ('\x7b' :: cs) =
      (readBraced (depth + 1) cs).map fun (l, r) => ('\x7b' :: l, r) := by
  rw [readBraced.eq_def]
  rfl

theorem readBraced_close :
    readBraced (depth + 1) ('\x7d' :: cs) =
      (readBraced depth cs).map fun (l, r) => ('\x7d' :: l, r) := rfl

/-- Looking for the closing brace passes over a balanced text. -/
theorem readBraced_append {p : Char → Prop} {w : List Char} (hw : Balanced p w) (depth : Nat)
    (rest : List Char) :
    readBraced depth (w ++ rest) = (readBraced depth rest).map fun (l, r) => (w ++ l, r) := by
  -- Of the pairs of a balanced text only braces change the depth, and each pair changes it back.
  induction hw generalizing depth rest with
  | nil => simp
  | @plain p c cs hc _ _ ih =>
    have hopen : c ≠ '\x7b' := by
      rintro rfl
      cases hc.notOpener
    have hclose : c ≠ '\x7d' := by
      rintro rfl
      cases hc.notCloser
    rw [List.cons_append, readBraced_plain hopen hclose, ih, Option.map_map]
    rfl
  | @wrap p o k inner cs ho _ _ ihinner ih =>
    have hpair := closer?_eq_some ho
    rw [List.cons_append, List.append_assoc, List.cons_append]
    by_cases hbrace : o = '\x7b'
    · subst hbrace
      obtain rfl : k = '\x7d' := (Option.some.inj ho).symm
      rw [readBraced_open, ihinner, readBraced_close, ih]
      simp [Function.comp_def]
    · have hplain : o ≠ '\x7d' ∧ k ≠ '\x7b' ∧ k ≠ '\x7d' := by
        simp only [List.mem_cons, Prod.mk.injEq, List.not_mem_nil, or_false] at hpair
        obtain ⟨rfl, rfl⟩ | ⟨rfl, rfl⟩ | ⟨rfl, rfl⟩ | ⟨rfl, rfl⟩ := hpair
        · decide
        · exact absurd rfl hbrace
        · decide
        · decide
      rw [readBraced_plain hbrace hplain.1, ihinner, readBraced_plain hplain.2.1 hplain.2.2, ih]
      simp [Function.comp_def]

end Braces

/-- What stands between the braces of a tag. -/
theorem readBraced_type {t : TypeExpr} (ht : t.WellFormed false) (rest : List Char) :
    readBraced 0 (t.format.toList ++ '\x7d' :: rest) = some (t.format.toList, rest) := by
  rw [TypeExpr.format, String.toList_ofList, readBraced_append ht.balanced]
  simp [readBraced]

/-- A tag is found behind blanks. -/
theorem findTag?_append {indent : List Char} (hindent : ∀ c ∈ indent, c ≠ '@') (rest : List Char) :
    findTag? (indent ++ rest) = findTag? rest := by
  induction indent with
  | nil => rfl
  | cons c cs ih =>
    have hc := hindent c List.mem_cons_self
    have hnone : tagHead? (c :: (cs ++ rest)) = none := by
      unfold tagHead?
      split
      · rename_i heq
        cases heq
        exact absurd rfl hc
      · rfl
    rw [List.cons_append, findTag?, hnone]
    exact ih fun d hd => hindent d (List.mem_cons_of_mem _ hd)

theorem findTag?_eq_none {cs : List Char} (h : '@' ∉ cs) : findTag? cs = none := by
  have hall : ∀ c ∈ cs, c ≠ '@' := by
    rintro c hc rfl
    exact h hc
  have hnil := findTag?_append hall []
  rwa [List.append_nil] at hnil

theorem tagHead?_word {word : List Char} (hne : word ≠ [])
    (hword : ∀ c ∈ word, isWordChar c = true) (rest : List Char) :
    tagHead? ('@' :: (word ++ ' ' :: '\x7b' :: rest)) = some (word, rest) := by
  have htake : (word ++ ' ' :: '\x7b' :: rest).takeWhile isWordChar = word := by
    rw [List.takeWhile_append_of_pos hword, List.takeWhile_cons_of_neg (by decide), List.append_nil]
  have hdrop : (word ++ ' ' :: '\x7b' :: rest).dropWhile isWordChar = ' ' :: '\x7b' :: rest := by
    rw [dropWhile_append_of_all hword, List.dropWhile_cons_of_neg (by decide)]
  have hblank : (' ' :: '\x7b' :: rest).dropWhile isBlank = '\x7b' :: rest := by
    rw [List.dropWhile_cons_of_pos (by decide), List.dropWhile_cons_of_neg (by decide)]
  unfold tagHead?
  simp only [htake, hdrop, hblank]
  simp [hne]

/-! ## Decoration -/

/-- A text that starts with neither a blank nor decoration. -/
def StartsPlain (cs : List Char) : Prop :=
  ∃ c rest, cs = c :: rest ∧ isBlank c = false ∧ c ≠ '*' ∧ c ≠ '/'

section Decoration

variable {style : DocStyle} {content line gap rest : List Char}

theorem undecorated_of_blank
    (hrest : ∀ c ∈ dropDecoration (line.dropWhile isBlank), isBlank c = true) :
    undecorated line = [] := by
  unfold undecorated
  split
  · rename_i c cs hline
    rw [hline] at hrest
    have hcs : ∀ d ∈ cs, isBlank d = true := fun d hd => hrest d (List.mem_cons_of_mem _ hd)
    rw [if_pos (hrest c List.mem_cons_self)]
    exact trimRightBy_append_of_all hcs []
  · rfl

/-- One blank behind the decoration goes with it. -/
theorem undecorated_of_gap (hline : dropDecoration (line.dropWhile isBlank) = gap ++ rest)
    (hgap : IsIndent gap) (hrest : StartsPlain rest) :
    ∃ gap', IsIndent gap' ∧ undecorated line = trimRightBy isBlank (gap' ++ rest) := by
  unfold undecorated
  rw [hline]
  cases gap with
  | nil =>
    obtain ⟨c, cs, rfl, hc, -⟩ := hrest
    exact ⟨[], ⟨nofun, nofun⟩, by simp [hc]⟩
  | cons c cs =>
    have hc := hgap.blank c List.mem_cons_self
    refine ⟨cs, ⟨fun d hd => hgap.blank d ?_, fun d hd => hgap.oneLine d ?_⟩, by simp [hc]⟩
    · exact List.mem_cons_of_mem _ hd
    · exact List.mem_cons_of_mem _ hd

theorem dropDecoration_of_startsPlain (h : StartsPlain rest) : dropDecoration rest = rest := by
  obtain ⟨c, cs, rfl, -, hstar, hslash⟩ := h
  unfold dropDecoration
  split
  · rename_i heq
    cases heq
    exact absurd rfl hslash
  · rename_i heq
    cases heq
    exact absurd rfl hstar
  · rename_i heq
    cases heq
    exact absurd rfl hstar
  · rfl

theorem dropDecoration_star (h : ∀ c ∈ rest.head?, c ≠ '/') : dropDecoration ('*' :: rest) = rest := by
  cases rest with
  | nil => rfl
  | cons c cs =>
    have hc := h c rfl
    unfold dropDecoration
    split
    · rename_i heq
      cases heq
    · rename_i heq
      cases heq
      exact absurd rfl hc
    · rename_i heq
      cases heq
      rfl
    · rename_i hany
      exact (hany _ rfl).elim

theorem not_slash_of_blank {c : Char} (hc : isBlank c = true) : c ≠ '/' := by
  rintro rfl
  cases hc

/-- Of a line that shows a text, the text is left, with blanks around it. -/
theorem Shows.undecorated (hline : Shows style content line) (hcontent : StartsPlain content) :
    ∃ gap trail, IsIndent gap ∧ IsIndent trail ∧
      undecorated line = trimRightBy isBlank (gap ++ (content ++ trail)) := by
  obtain ⟨indent, gap, trail, hindent, hgap, htrail, rfl⟩ := hline
  have hplain : StartsPlain (content ++ trail) := by
    obtain ⟨c, cs, rfl, hc⟩ := hcontent
    exact ⟨c, cs ++ trail, rfl, hc⟩
  -- Neither the blanks nor the star in front can run on into the text.
  have hfirst : ∀ c ∈ (content ++ trail).head?, isBlank c = false ∧ c ≠ '/' := by
    obtain ⟨c, cs, heq, hc, -, hslash⟩ := hplain
    rw [heq]
    rintro d ⟨⟩
    exact ⟨hc, hslash⟩
  cases style with
  | indented =>
    have hrest : dropDecoration ((indent ++ DocStyle.indented.mark ++ gap ++ content ++ trail).dropWhile
        isBlank) = [] ++ (content ++ trail) := by
      rw [DocStyle.mark, List.append_nil, List.append_assoc, List.append_assoc,
        dropWhile_append_of_all hindent.blank, dropWhile_append_of_all hgap.blank,
        dropWhile_eq_self.2 fun c hc => (hfirst c hc).1, dropDecoration_of_startsPlain hplain]
      rfl
    obtain ⟨gap', hgap', heq⟩ := undecorated_of_gap hrest ⟨nofun, nofun⟩ hplain
    exact ⟨gap', trail, hgap', htrail, heq⟩
  | starred =>
    have hstar : ∀ c ∈ (gap ++ (content ++ trail)).head?, c ≠ '/' := by
      cases gap with
      | nil => exact fun c hc => (hfirst c hc).2
      | cons d ds =>
        rintro c ⟨⟩
        exact not_slash_of_blank (hgap.blank _ List.mem_cons_self)
    have hrest : dropDecoration ((indent ++ DocStyle.starred.mark ++ gap ++ content ++ trail).dropWhile
        isBlank) = gap ++ (content ++ trail) := by
      rw [DocStyle.mark, List.append_assoc, List.append_assoc, List.append_assoc,
        dropWhile_append_of_all hindent.blank, List.singleton_append,
        List.dropWhile_cons_of_neg (by decide), dropDecoration_star hstar]
    obtain ⟨gap', hgap', heq⟩ := undecorated_of_gap hrest hgap hplain
    exact ⟨gap', trail, hgap', htrail, heq⟩

theorem undecorated_of_isIndent (h : IsIndent line) : undecorated line = [] := by
  have hnone : line.dropWhile isBlank = [] := List.dropWhile_eq_nil_iff.2 h.blank
  refine undecorated_of_blank ?_
  rw [hnone]
  nofun

/-- Nothing is left of a line that shows nothing. -/
theorem undecorated_of_shows_nil (h : Shows style [] line) : undecorated line = [] := by
  obtain ⟨indent, gap, trail, hindent, hgap, htrail, rfl⟩ := h
  rw [List.append_nil]
  have hblank : ∀ c ∈ gap ++ trail, isBlank c = true := by
    intro c hc
    exact (List.mem_append.1 hc).elim (hgap.blank c) (htrail.blank c)
  cases style with
  | indented =>
    refine undecorated_of_blank ?_
    rw [DocStyle.mark, List.append_nil, List.append_assoc, dropWhile_append_of_all hindent.blank,
      List.dropWhile_eq_nil_iff.2 hblank]
    nofun
  | starred =>
    have hstar : ∀ c ∈ (gap ++ trail).head?, c ≠ '/' := fun c hc =>
      not_slash_of_blank (hblank c (List.mem_of_mem_head? hc))
    refine undecorated_of_blank ?_
    rw [DocStyle.mark, List.append_assoc, List.append_assoc, dropWhile_append_of_all hindent.blank,
      List.singleton_append, List.dropWhile_cons_of_neg (by decide), dropDecoration_star hstar]
    exact hblank

/-- Nothing is left of the marks of a block comment. -/
theorem IsMarkLine.undecorated {mark : List Char} (h : IsMarkLine mark line)
    (hmark : mark = ['/', '*', '*'] ∨ mark = ['*', '/']) : undecorated line = [] := by
  obtain ⟨indent, trail, hindent, htrail, rfl⟩ := h
  refine undecorated_of_blank ?_
  rw [List.append_assoc, dropWhile_append_of_all hindent.blank]
  obtain rfl | rfl := hmark
  · intro c hc
    exact htrail.blank c ((List.dropWhile_suffix _).subset hc)
  · exact htrail.blank

end Decoration

/-! ## One more line -/

section AddLine

variable {style : DocStyle} {read : String → TypeExpr} {b : DocBlock} {line : List Char}

theorem addLine_of_undecorated_nil (h : undecorated line = []) : b.addLine read line = b := by
  unfold DocBlock.addLine
  rw [h]
  rfl

theorem trim_of_startsPlain {cs : List Char} (h : StartsPlain cs) : trim cs ≠ [] := by
  obtain ⟨c, rest, rfl, hc, -⟩ := h
  have hleft : (c :: rest).dropWhile isBlank = c :: rest := by simp [hc]
  have hright := trimRightBy_append_cons hc [] rest
  rw [List.nil_append] at hright
  rw [trim, trimBy, trimLeftBy, hleft, hright]
  exact List.cons_ne_nil _ _

/-- A line that shows a text is not blank. -/
theorem trim_undecorated {content gap trail : List Char} (hgap : IsIndent gap)
    (htrail : IsIndent trail) :
    trim (trimRightBy isBlank (gap ++ (content ++ trail))) = trim content := by
  rw [trim_trimRightBy, trim_append_left hgap.blank, trim_append_right htrail.blank]

theorem WrittenTag.startsPlain (t : WrittenTag) : StartsPlain t.chars :=
  ⟨'@', _, rfl, by decide⟩

theorem IsSummary.startsPlain {s : String} (h : IsSummary s) : StartsPlain s.toList := by
  cases hs : s.toList with
  | nil => exact absurd hs h.nonempty
  | cons c cs =>
    have hfirst := h.noMark c (by rw [hs]; rfl)
    have hblank := (isTrimmed_iff.1 h.trimmed).1 c (by rw [hs]; rfl)
    exact ⟨c, cs, rfl, hblank, hfirst.2⟩

/-- The parts of a line with a tag. -/
theorem tagParts?_chars {t : WrittenTag} (ht : t.IsReadable) {gap trail : List Char}
    (hgap : IsIndent gap) (htrail : IsIndent trail) :
    tagParts? (trimRightBy isBlank (gap ++ (t.chars ++ trail))) =
      some (t.word.toList, t.type.format.toList, t.description.toList) := by
  -- Trimming on the right leaves the closing brace, and all in front of it, where it is.
  have hsplit : gap ++ (t.chars ++ trail) =
      (gap ++ '@' :: (t.word.toList ++ ' ' :: '\x7b' :: t.type.format.toList)) ++
        '\x7d' :: (' ' :: t.description.toList ++ trail) := by
    simp [WrittenTag.chars]
  have hjoin (rest : List Char) :
      (gap ++ '@' :: (t.word.toList ++ ' ' :: '\x7b' :: t.type.format.toList)) ++ '\x7d' :: rest =
        gap ++ '@' :: (t.word.toList ++ ' ' :: '\x7b' :: (t.type.format.toList ++ '\x7d' :: rest)) := by
    simp
  have hat : ∀ c ∈ gap, c ≠ '@' := by
    rintro c hc rfl
    cases hgap.blank _ hc
  have htype : trim t.type.format.toList = t.type.format.toList := by
    rw [TypeExpr.format, String.toList_ofList, ht.typeWellFormed.trim_chars]
  have hdescription : trim (trimRightBy isBlank (' ' :: t.description.toList ++ trail)) =
      t.description.toList := by
    rw [trim_trimRightBy, trim_append_right htrail.blank, trim_cons_of_isBlank (by decide)]
    exact ht.trimmed
  rw [hsplit, trimRightBy_append_cons (by decide), hjoin, tagParts?, findTag?_append hat, findTag?,
    tagHead?_word ht.wordNonempty ht.wordChars]
  simpa [readBraced_type ht.typeWellFormed, htype] using hdescription

theorem addLine_tag {t : WrittenTag} (ht : t.IsReadable) (hline : Shows style t.chars line) :
    b.addLine (TypeExpr.ofText false) line = { b with tags := b.tags ++ [t.toTag] } := by
  obtain ⟨gap, trail, hgap, htrail, hundecorated⟩ := hline.undecorated t.startsPlain
  have hne : (trim (undecorated line)).isEmpty = false := by
    rw [hundecorated, trim_undecorated hgap htrail]
    simpa using trim_of_startsPlain t.startsPlain
  have htag : DocTag.ofLine? (TypeExpr.ofText false) (String.ofList (undecorated line)) =
      some t.toTag := by
    rw [DocTag.ofLine?, String.toList_ofList, hundecorated, tagParts?_chars ht hgap htrail]
    simp [WrittenTag.toTag, ht.typeWellFormed.ofText_format]
  simp only [DocBlock.addLine, hne, htag]
  rfl

/-- The first summary is kept. -/
theorem addLine_summary {s : String} (hs : IsSummary s) (hline : Shows style s.toList line) :
    DocBlock.addLine read .empty line = { DocBlock.empty with summary := s } := by
  obtain ⟨gap, trail, hgap, htrail, hundecorated⟩ := hline.undecorated hs.startsPlain
  have htrim : trim (undecorated line) = s.toList := by
    rw [hundecorated, trim_undecorated hgap htrail, hs.trimmed]
  have hnoTag : '@' ∉ undecorated line := by
    obtain ⟨b, -, hwhole⟩ := trimRightBy_append isBlank (gap ++ (s.toList ++ trail))
    intro hat
    have hmem : '@' ∈ gap ++ (s.toList ++ trail) := by
      rw [← hwhole, ← hundecorated]
      exact List.mem_append_left b hat
    obtain hgap' | hsummary | htrail' := by simpa only [List.mem_append] using hmem
    · cases hgap.blank _ hgap'
    · exact hs.noTag hsummary
    · cases htrail.blank _ htrail'
  have htag : DocTag.ofLine? read (String.ofList (undecorated line)) = none := by
    simp [DocTag.ofLine?, tagParts?, findTag?_eq_none hnoTag]
  have hhead : ((undecorated line).dropWhile isBlank).head? ≠ some '@' := by
    intro hhead
    exact hnoTag ((List.dropWhile_suffix _).subset (List.mem_of_mem_head? hhead))
  simp [DocBlock.addLine, htrim, htag, hhead, hs.nonempty, DocBlock.empty]

end AddLine

/-! ## The lines of a text -/

theorem lines_cons {c : Char} (hc : isLineEnd c = false) (cs : List Char) :
    lines (c :: cs) = match lines cs with
      | [] => [[c]]
      | l :: ls => (c :: l) :: ls := by
  have hreturn : c ≠ '\r' := by
    rintro rfl
    cases hc
  rw [lines.eq_def]
  split
  · rename_i heq
    cases heq
  · rename_i heq
    cases heq
    exact absurd rfl hreturn
  · rename_i heq
    cases heq
    refine (if_neg (by simp [hc])).trans ?_
    cases lines cs <;> rfl

theorem lines_oneLine {l : List Char} (hl : IsOneLine l) (hne : l ≠ []) : lines l = [l] := by
  induction l with
  | nil => exact absurd rfl hne
  | cons c cs ih =>
    rw [lines_cons (hl c List.mem_cons_self)]
    cases cs with
    | nil => rfl
    | cons d ds => rw [ih (fun e he => hl e (List.mem_cons_of_mem _ he)) (List.cons_ne_nil d ds)]

theorem lines_append {l : List Char} (hl : IsOneLine l) (rest : List Char) :
    lines (l ++ '\n' :: rest) = l :: lines rest := by
  induction l with
  | nil =>
    rw [List.nil_append, lines]
    · rfl
    · nofun
  | cons c cs ih =>
    rw [List.cons_append, lines_cons (hl c List.mem_cons_self),
      ih fun d hd => hl d (List.mem_cons_of_mem _ hd)]

/-- A step that passes over empty lines goes through a text line by line. -/
theorem foldl_lines {β : Type} {step : β → List Char → β} (hempty : ∀ b, step b [] = b)
    {ls : List (List Char)} (hls : ∀ l ∈ ls, IsOneLine l) (b : β) :
    (lines ((textOfLines ls).toList)).foldl step b = ls.foldl step b := by
  rw [textOfLines, String.toList_ofList]
  induction ls generalizing b with
  | nil => rfl
  | cons l ls ih =>
    have hl := hls l List.mem_cons_self
    cases ls with
    | nil =>
      rw [List.intercalate_singleton]
      by_cases hne : l = []
      · subst hne
        exact (hempty b).symm
      · rw [lines_oneLine hl hne]
    | cons m ms =>
      rw [List.intercalate_cons_cons, List.append_assoc, List.singleton_append, lines_append hl,
        List.foldl_cons, List.foldl_cons]
      exact ih (fun k hk => hls k (List.mem_cons_of_mem _ hk)) _

/-! ## Reading back -/

section ReadingBack

variable {style : DocStyle} {summary : Option String} {tags : List WrittenTag}
  {ls : List (List Char)} {b : DocBlock}

/-- The lines of tags add the tags, in their order. -/
theorem foldl_tags {contents : List (List Char)} (hls : ShowsAll style contents ls)
    (htags : ∀ t ∈ tags, t.IsReadable) (hcontents : contents = tags.map WrittenTag.chars)
    (b : DocBlock) :
    ls.foldl (DocBlock.addLine (TypeExpr.ofText false)) b =
      { b with tags := b.tags ++ tags.map WrittenTag.toTag } := by
  induction hls generalizing b tags with
  | nil =>
    obtain rfl : tags = [] := List.map_eq_nil_iff.1 hcontents.symm
    simp
  | blank h _ ih =>
    have hblank := h.elim undecorated_of_isIndent undecorated_of_shows_nil
    rw [List.foldl_cons, addLine_of_undecorated_nil hblank]
    exact ih htags hcontents b
  | content h _ ih =>
    cases tags with
    | nil => cases hcontents
    | cons t tags =>
      obtain ⟨rfl, rfl⟩ := List.cons.inj hcontents
      have ht := htags t List.mem_cons_self
      rw [List.foldl_cons, addLine_tag ht h,
        ih (fun u hu => htags u (List.mem_cons_of_mem _ hu)) rfl]
      simp

/-- Only blank lines stand in front of the line that shows the first text. -/
theorem ShowsAll.foldl_cons {content : List Char} {contents : List (List Char)}
    {read : String → TypeExpr} (hls : ShowsAll style (content :: contents) ls) :
    ∃ line rest, Shows style content line ∧ ShowsAll style contents rest ∧
      ls.foldl (DocBlock.addLine read) b = (line :: rest).foldl (DocBlock.addLine read) b := by
  generalize hall : content :: contents = all at hls
  induction hls with
  | nil => cases hall
  | blank h _ ih =>
    obtain ⟨line, rest, hline, hrest, heq⟩ := ih hall
    have hblank := h.elim undecorated_of_isIndent undecorated_of_shows_nil
    refine ⟨line, rest, hline, hrest, ?_⟩
    rw [List.foldl_cons, addLine_of_undecorated_nil hblank, heq]
  | content h hrest _ =>
    obtain ⟨rfl, rfl⟩ := List.cons.inj hall
    exact ⟨_, _, h, hrest, rfl⟩

/-- The texts that a block is read from: the summary, if there is one, and the tags. -/
def blockContents (summary : Option String) (tags : List WrittenTag) : List (List Char) :=
  summary.toList.map String.toList ++ tags.map WrittenTag.chars

/-- A summary in front of the tags is found as well. -/
theorem foldl_contents (hls : ShowsAll style (blockContents summary tags) ls)
    (hsummary : ∀ s ∈ summary, IsSummary s) (htags : ∀ t ∈ tags, t.IsReadable) :
    ls.foldl (DocBlock.addLine (TypeExpr.ofText false)) .empty =
      ⟨summary.getD "", tags.map WrittenTag.toTag⟩ := by
  cases summary with
  | none => exact foldl_tags hls htags rfl .empty
  | some s =>
    obtain ⟨line, rest, hline, hrest, heq⟩ := hls.foldl_cons
    rw [heq, List.foldl_cons, addLine_summary (hsummary s rfl) hline]
    exact foldl_tags hrest htags rfl _

/-- Lines that show nothing change nothing. -/
theorem foldl_of_undecorated_nil {read : String → TypeExpr}
    (hls : ∀ l ∈ ls, undecorated l = []) (b : DocBlock) : ls.foldl (DocBlock.addLine read) b = b := by
  induction ls with
  | nil => rfl
  | cons l ls ih =>
    rw [List.foldl_cons, addLine_of_undecorated_nil (hls l List.mem_cons_self)]
    exact ih fun m hm => hls m (List.mem_cons_of_mem _ hm)

/-- However the texts are laid out, the block has the summary and the tags. -/
theorem foldl_laidOut (hls : IsLaidOut (blockContents summary tags) style ls)
    (hsummary : ∀ s ∈ summary, IsSummary s) (htags : ∀ t ∈ tags, t.IsReadable) :
    ls.foldl (DocBlock.addLine (TypeExpr.ofText false)) .empty =
      ⟨summary.getD "", tags.map WrittenTag.toTag⟩ := by
  cases hls with
  | indented h => exact foldl_contents h hsummary htags
  | starred hbefore hopening hbody hclosing hafter =>
    have hbefore' : ∀ l ∈ _, undecorated l = [] := fun l hl => undecorated_of_isIndent (hbefore l hl)
    have hafter' : ∀ l ∈ _, undecorated l = [] := fun l hl => undecorated_of_isIndent (hafter l hl)
    rw [List.foldl_append, List.foldl_cons, List.foldl_append, List.foldl_cons,
      foldl_of_undecorated_nil hbefore', addLine_of_undecorated_nil (hopening.undecorated (.inl rfl)),
      foldl_contents hbody hsummary htags,
      addLine_of_undecorated_nil (hclosing.undecorated (.inr rfl)), foldl_of_undecorated_nil hafter']

end ReadingBack

/-! ## Every line is one line -/

section OneLine

variable {style : DocStyle} {contents ls : List (List Char)} {content line : List Char}

theorem isOneLine_append {a b : List Char} (ha : IsOneLine a) (hb : IsOneLine b) :
    IsOneLine (a ++ b) := fun c hc => (List.mem_append.1 hc).elim (ha c) (hb c)

/-- The characters that end a line. -/
theorem mem_of_isLineEnd {c : Char} (h : isLineEnd c = true) :
    c.toNat ∈ [10, 11, 12, 13, 28, 29, 30, 0x85, 0x2028, 0x2029] := by
  simp only [isLineEnd, Bool.or_eq_true, Bool.and_eq_true, decide_eq_true_eq, beq_iff_eq] at h
  simp only [List.mem_cons, List.not_mem_nil, or_false]
  omega

theorem isLineEnd_of_isWordChar {c : Char} (hc : isWordChar c = true) : isLineEnd c = false := by
  cases hend : isLineEnd c with
  | false => rfl
  | true =>
    have hnone : ∀ n ∈ [10, 11, 12, 13, 28, 29, 30, 0x85, 0x2028, 0x2029],
        isWordChar (Char.ofNat n) = false := by decide +kernel
    have hword := hnone c.toNat (mem_of_isLineEnd hend)
    rw [Char.ofNat_toNat, hc] at hword
    cases hword

theorem Shows.isOneLine (h : Shows style content line) (hcontent : IsOneLine content) :
    IsOneLine line := by
  obtain ⟨indent, gap, trail, hindent, hgap, htrail, rfl⟩ := h
  have hmark : IsOneLine style.mark := by
    cases style <;> simp [IsOneLine, DocStyle.mark, isLineEnd]
  exact isOneLine_append (isOneLine_append (isOneLine_append (isOneLine_append hindent.oneLine hmark)
    hgap.oneLine) hcontent) htrail.oneLine

theorem ShowsAll.isOneLine (h : ShowsAll style contents ls)
    (hcontents : ∀ content ∈ contents, IsOneLine content) : ∀ l ∈ ls, IsOneLine l := by
  induction h with
  | nil => exact nofun
  | blank h _ ih =>
    have hline := h.elim IsIndent.oneLine fun hshows => hshows.isOneLine nofun
    exact List.forall_mem_cons.2 ⟨hline, ih hcontents⟩
  | content h _ ih =>
    have hall := List.forall_mem_cons.1 hcontents
    exact List.forall_mem_cons.2 ⟨h.isOneLine hall.1, ih hall.2⟩

theorem IsMarkLine.isOneLine {mark : List Char} (h : IsMarkLine mark line)
    (hmark : IsOneLine mark) : IsOneLine line := by
  obtain ⟨indent, trail, hindent, htrail, rfl⟩ := h
  exact isOneLine_append (isOneLine_append hindent.oneLine hmark) htrail.oneLine

theorem IsLaidOut.isOneLine (h : IsLaidOut contents style ls)
    (hcontents : ∀ content ∈ contents, IsOneLine content) : ∀ l ∈ ls, IsOneLine l := by
  cases h with
  | indented h => exact h.isOneLine hcontents
  | starred hbefore hopening hbody hclosing hafter =>
    have hopening' := hopening.isOneLine (by simp [IsOneLine, isLineEnd])
    have hclosing' := hclosing.isOneLine (by simp [IsOneLine, isLineEnd])
    intro l hl
    simp only [List.mem_append, List.mem_cons] at hl
    obtain (hl | rfl | hl) | rfl | hl := hl
    · exact (hbefore l hl).oneLine
    · exact hopening'
    · exact hbody.isOneLine hcontents l hl
    · exact hclosing'
    · exact (hafter l hl).oneLine

theorem WrittenTag.IsReadable.isOneLine {t : WrittenTag} (ht : t.IsReadable) :
    IsOneLine t.chars := by
  have hword : IsOneLine t.word.toList := fun c hc => isLineEnd_of_isWordChar (ht.wordChars c hc)
  have hat : IsOneLine ('@' :: t.word.toList) :=
    List.forall_mem_cons.2 ⟨by decide, hword⟩
  have hopening : IsOneLine [' ', '\x7b'] := by simp [IsOneLine, isLineEnd]
  have hclosing : IsOneLine ['\x7d', ' '] := by simp [IsOneLine, isLineEnd]
  have hwhole := isOneLine_append (isOneLine_append (isOneLine_append hat hopening) ht.typeOneLine)
    (isOneLine_append hclosing ht.oneLine)
  simpa [WrittenTag.chars] using hwhole

theorem isOneLine_of_mem_blockContents {summary : Option String} {tags : List WrittenTag}
    (hsummary : ∀ s ∈ summary, IsSummary s) (htags : ∀ t ∈ tags, t.IsReadable) :
    ∀ content ∈ blockContents summary tags, IsOneLine content := by
  intro content hcontent
  obtain hcontent | hcontent := List.mem_append.1 hcontent
  · obtain ⟨s, hs, rfl⟩ := List.mem_map.1 hcontent
    exact (hsummary s (Option.mem_toList.1 hs)).oneLine
  · obtain ⟨t, ht, rfl⟩ := List.mem_map.1 hcontent
    exact (htags t ht).isOneLine

end OneLine

/-! ## The round trip -/

/-- Documentation that shows a summary, if there is one, and tags is read as this summary and
these tags. Looking tags up by a word finds the first with it, and all with it. -/
theorem DocBlock.ofText_written {style : DocStyle} {summary : Option String}
    {tags : List WrittenTag} {ls : List (List Char)}
    (hsummary : ∀ s ∈ summary, IsSummary s) (htags : ∀ t ∈ tags, t.IsReadable)
    (hls : IsLaidOut (blockContents summary tags) style ls) :
    let b := DocBlock.ofText (TypeExpr.ofText false) (textOfLines ls)
    b.summary = summary.getD "" ∧ b.tags = tags.map WrittenTag.toTag ∧
      ∀ word, b.first? word = (tags.find? (·.word == word)).map WrittenTag.toTag ∧
        b.all word = (tags.filter (·.word == word)).map WrittenTag.toTag := by
  have hone := hls.isOneLine (isOneLine_of_mem_blockContents hsummary htags)
  have hempty (b : DocBlock) : b.addLine (TypeExpr.ofText false) [] = b :=
    addLine_of_undecorated_nil rfl
  have hread : DocBlock.ofText (TypeExpr.ofText false) (textOfLines ls) =
      ⟨summary.getD "", tags.map WrittenTag.toTag⟩ := by
    rw [DocBlock.ofText, foldl_lines hempty hone, foldl_laidOut hls hsummary htags]
  rw [hread]
  refine ⟨rfl, rfl, fun word => ⟨?_, ?_⟩⟩
  · exact List.find?_map ..
  · exact List.filter_map

theorem ofText_written_block :
    let pose : TypeExpr := .record [
      ("at", .generic "Map" [.scalar "string", .array (.scalar "number")]),
      ("of", .union [.scalar "Node", .record []])]
    let tags : List WrittenTag := [⟨"param", pose, "what \x7b@type\x7d moves /"⟩,
      ⟨"returns", .scalar "this", ""⟩, ⟨"param", .array pose, "* the rest"⟩]
    let body := [" * Moves nodes.".toList, [' '],
      "\t*@param \x7b\x7bat: Map<string, Array.<number>>, of: Node|\x7b\x7d\x7d\x7d what \x7b@type\x7d moves /".toList,
      [' ', '*'], " *  @returns \x7bthis\x7d ".toList,
      " * @param \x7bArray.<\x7bat: Map<string, Array.<number>>, of: Node|\x7b\x7d\x7d>\x7d * the rest".toList]
    let b := DocBlock.ofText (TypeExpr.ofText false)
      (textOfLines ([[]] ++ "  /**".toList :: body ++ " */ ".toList :: []))
    b.summary = "Moves nodes." ∧ b.tags = tags.map WrittenTag.toTag ∧
      ∀ word, b.first? word = (tags.find? (·.word == word)).map WrittenTag.toTag ∧
        b.all word = (tags.filter (·.word == word)).map WrittenTag.toTag := by
  intro pose tags body
  have hpose : pose.WellFormed false := by
    refine .record (by decide) (by decide) ?_
    simp only [List.forall_mem_cons]
    refine ⟨.generic (by decide) (by decide) ?_, .union (by decide) (fun _ => by decide) ?_, nofun⟩
    · simp only [List.forall_mem_cons]
      exact ⟨.scalar (by decide), .array (.scalar (by decide)), nofun⟩
    · simp only [List.forall_mem_cons]
      exact ⟨.scalar (by decide), .record (by decide) (by decide) nofun, nofun⟩
  have htags : ∀ t ∈ tags, t.IsReadable := by
    simp only [tags, List.forall_mem_cons]
    have hword {word : String} (h : word.toList.all isWordChar = true) :
        ∀ c ∈ word.toList, isWordChar c = true :=
      List.all_eq_true.1 h
    refine ⟨⟨by decide, hword (by decide), hpose, by decide, by decide, by decide⟩,
      ⟨by decide, hword (by decide), .scalar (by decide), by decide, by decide, by decide⟩,
      ⟨by decide, hword (by decide), .array hpose, by decide, by decide, by decide⟩, nofun⟩
  have hsummary : ∀ s ∈ some "Moves nodes.", IsSummary s := by
    rintro _ ⟨⟩
    refine ⟨by decide, by decide, by decide, ?_, by decide⟩
    rintro _ ⟨⟩
    decide
  have hbody : ShowsAll .starred (blockContents (some "Moves nodes.") tags) body := by
    refine .content ⟨[' '], [' '], [], by decide, by decide, by decide, rfl⟩ ?_
    refine .blank (.inl (by decide)) ?_
    refine .content ⟨['\t'], [], [], by decide, by decide, by decide, by decide⟩ ?_
    refine .blank (.inr ⟨[' '], [], [], by decide, by decide, by decide, rfl⟩) ?_
    refine .content ⟨[' '], [' ', ' '], [], by decide, by decide, by decide, by decide⟩ ?_
    exact .content ⟨[' '], [' '], [], by decide, by decide, by decide, by decide⟩ .nil
  have hmarks : IsMarkLine ['/', '*', '*'] "  /**".toList ∧ IsMarkLine ['*', '/'] " */ ".toList :=
    ⟨⟨[' ', ' '], [], by decide, by decide, rfl⟩, ⟨[' '], [' '], by decide, by decide, rfl⟩⟩
  exact DocBlock.ofText_written hsummary htags
    (.starred (by decide) hmarks.1 hbody hmarks.2 (by decide))

end SceneBridge
