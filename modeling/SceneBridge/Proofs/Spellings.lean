import SceneBridge.Proofs.TypeReadings
import SceneBridge.Proofs.TypeText

/-!
# Spellings put together

A type may be spelled in more than one way, and its parts are texts of their own. What is read from
a spelling follows from what is read from the parts: whatever a part looks like inside, the
parentheses around it hide it.
-/

namespace SceneBridge.TypeExpr

open Text Brackets

variable {naive : Bool} {text w : List Char} {t : TypeExpr}

/-! ## Identifiers -/

/-- A name of letters, digits, underscores and dollar signs that does not start with a digit. -/
structure IsIdentifier (name : String) : Prop where
  starts : name.toList.head?.any isNameStart = true
  goesOn : ∀ c ∈ name.toList.tail, isWordChar c = true ∨ c = '$'

instance (name : String) : Decidable (IsIdentifier name) :=
  decidable_of_iff (name.toList.head?.any isNameStart = true ∧
      name.toList.tail.all (fun c => isWordChar c || c == '$') = true)
    ⟨fun ⟨hs, hc⟩ => ⟨hs, by simpa using hc⟩, fun ⟨hs, hc⟩ => ⟨hs, by simpa using hc⟩⟩

theorem isWordChar_of_isNameStart {c : Char} (h : isNameStart c = true) :
    isWordChar c = true ∨ c = '$' := by
  have hname := isNameChar_of_isNameStart h
  simp only [isNameChar, Bool.or_eq_true, beq_iff_eq, or_assoc] at hname
  obtain hword | hdollar | rfl := hname
  · exact .inl hword
  · exact .inr hdollar
  · cases h

/-- The numbers of the blank characters. -/
def blankNumbers : List Nat :=
  List.range' 9 5 ++ List.range' 28 5 ++ [0x85, 0xA0, 0x1680] ++ List.range' 0x2000 11 ++
    [0x2028, 0x2029, 0x202F, 0x205F, 0x3000]

theorem mem_blankNumbers {c : Char} (h : isBlank c = true) : c.toNat ∈ blankNumbers := by
  simp only [isBlank, Bool.or_eq_true, Bool.and_eq_true, decide_eq_true_eq, beq_iff_eq] at h
  simp only [blankNumbers, List.mem_append, List.mem_range'_1, List.mem_cons, List.not_mem_nil,
    or_false]
  omega

theorem isBlank_of_isWordChar {c : Char} (hc : isWordChar c = true) : isBlank c = false := by
  cases hblank : isBlank c with
  | false => rfl
  | true =>
    -- There are few blank characters, so that each of them can be looked at.
    have hnone : ∀ n ∈ blankNumbers, isWordChar (Char.ofNat n) = false := by decide +kernel
    have hword := hnone c.toNat (mem_blankNumbers hblank)
    rw [Char.ofNat_toNat, hc] at hword
    cases hword

namespace IsIdentifier

variable {name : String}

theorem chars (h : IsIdentifier name) : ∀ c ∈ name.toList, isWordChar c = true ∨ c = '$' := by
  cases hname : name.toList with
  | nil => exact nofun
  | cons d ds =>
    have hstarts := h.starts
    have hgoesOn := h.goesOn
    rw [hname] at hstarts hgoesOn
    exact List.forall_mem_cons.2 ⟨isWordChar_of_isNameStart (by simpa using hstarts), hgoesOn⟩

theorem notMem (h : IsIdentifier name) {c : Char} (hc : (isWordChar c || c == '$') = false) :
    c ∉ name.toList := by
  intro hmem
  simp only [Bool.or_eq_false_iff, beq_eq_false_iff_ne] at hc
  obtain hword | hdollar := h.chars c hmem
  · rw [hc.1] at hword
    cases hword
  · exact hc.2 hdollar

theorem isNameChar (h : IsIdentifier name) : ∀ c ∈ name.toList, TypeExpr.isNameChar c = true := by
  intro c hc
  obtain hword | rfl := h.chars c hc
  · simp [TypeExpr.isNameChar, hword]
  · rfl

theorem ne_nil (h : IsIdentifier name) : name.toList ≠ [] := by
  intro hname
  have hstarts := h.starts
  rw [hname] at hstarts
  cases hstarts

theorem isTrimmed (h : IsIdentifier name) : IsTrimmed name.toList := by
  have hblank : ∀ c ∈ name.toList, isBlank c = false := by
    intro c hc
    obtain hword | rfl := h.chars c hc
    · exact isBlank_of_isWordChar hword
    · decide
  exact trimBy_eq_self hblank

/-- An identifier and a dot behind it may stand in front of parameters. -/
theorem isHead (h : IsIdentifier name) (harray : name ≠ "Array") {dots : List Char}
    (hdots : dots = [] ∨ dots = ['.']) : IsHead (name.toList ++ dots) := by
  have hdot : '.' ∉ name.toList := h.notMem (by decide)
  have hname : name.toList ≠ "Array".toList := fun heq => harray (String.toList_injective heq)
  have hchars : ∀ c ∈ name.toList ++ dots, TypeExpr.isNameChar c = true := by
    intro c hc
    obtain hc | hc := List.mem_append.1 hc
    · exact h.isNameChar c hc
    · obtain rfl | rfl := hdots
      · cases hc
      · rw [List.mem_singleton.1 hc]
        rfl
  refine ⟨?_, fun c hc => hchars c (List.mem_of_mem_tail hc), ?_, ?_⟩
  · rw [List.head?_append_of_ne_nil _ h.ne_nil]
    exact h.starts
  · intro heq
    obtain rfl | rfl := hdots
    · exact hname (by simpa using heq)
    · have hlast := congrArg List.getLast? heq
      simp at hlast
  · intro heq
    obtain rfl | rfl := hdots
    · rw [List.append_nil] at heq
      rw [heq] at hdot
      exact hdot (by decide)
    · have hboth : name.toList ++ ['.'] = "Array".toList ++ ['.'] := heq
      exact hname (List.append_cancel_right hboth)

theorem trimRightBy_eq (h : IsIdentifier name) {dots : List Char}
    (hdots : dots = [] ∨ dots = ['.']) :
    trimRightBy (· == '.') (name.toList ++ dots) = name.toList := by
  have hdot : '.' ∉ name.toList := h.notMem (by decide)
  have hall : ∀ c ∈ dots, (c == '.') = true := by
    obtain rfl | rfl := hdots
    · exact nofun
    · exact List.forall_mem_singleton.2 rfl
  rw [trimRightBy_append_of_all hall]
  refine trimRightBy_eq_self.2 fun c hc => beq_eq_false_iff_ne.2 ?_
  exact ne_of_mem_of_not_mem (List.mem_of_getLast? hc) hdot

end IsIdentifier

/-! ## Pieces -/

/-- A text without double quotes that the grammar accepts, with the type that it reads as. -/
structure Piece (x : String) (t : TypeExpr) : Prop where
  noQuote : '"' ∉ x.toList
  parsed : parse false x.toList = .ok t

/-- The characters of a text in parentheses. -/
def parenChars (x : String) : List Char :=
  '(' :: (x.toList ++ [')'])

theorem trim_enclosed {o k : Char} (ho : isBlank o = false) (hk : isBlank k = false)
    (w : List Char) : trim (o :: (w ++ [k])) = o :: (w ++ [k]) := by
  refine isTrimmed_iff.2 ⟨fun c hc => ?_, fun c hc => ?_⟩
  · rw [List.head?_cons, Option.mem_some_iff] at hc
    rwa [← hc]
  · rw [← List.cons_append, List.getLast?_concat, Option.mem_some_iff] at hc
    rwa [← hc]

/-- Blanks around a text make no difference. -/
theorem Reads.of_trim_eq (h : Reads naive text t) (htrim : trim text = trim w) :
    Reads naive w t := by
  refine reads_of_parse ?_
  rw [← parse_congr htrim]
  exact h.parse

namespace Piece

variable {x : String}

theorem reads (h : Piece x t) : Reads false x.toList t :=
  reads_of_parse h.parsed

/-- Without quotes, the brackets of a text that is read are balanced. -/
theorem balanced (h : Piece x t) : Balanced (fun _ => True) x.toList :=
  (h.reads.isClosed.balanced h.noQuote).mono fun _ _ => trivial

theorem balanced_paren {p : Char → Prop} (h : Piece x t) : Balanced p (parenChars x) :=
  h.balanced.enclose rfl

theorem reads_paren (h : Piece x t) : Reads false (parenChars x) t := by
  refine .group ?_ h.reads
  rw [parenChars, trim_enclosed (by decide) (by decide)]
  exact formOf_group false h.balanced.isPassed

theorem reads_array (h : Piece x t) {before : List Char}
    (hbefore : before = "Array.".toList ∨ before = "Array".toList) :
    Reads false (before ++ '<' :: (x.toList ++ ['>'])) (.array t) := by
  have hform : formOf false (before ++ '<' :: (x.toList ++ ['>'])) = .ok (.array x.toList) := by
    obtain rfl | rfl := hbefore
    · have hdotted := formOf_array false h.balanced.isPassed
      rw [← hdotted]
      simp
    · exact formOf_array_undotted false h.balanced.isPassed
  have htrim : IsTrimmed (before ++ '<' :: x.toList ++ ['>']) := by
    obtain rfl | rfl := hbefore <;>
      exact IsTrimmed.surround (by decide) (by decide) (by decide) (by decide) _
  refine .array ?_ h.reads
  rw [List.append_assoc, List.cons_append] at htrim
  rw [htrim, hform]

theorem reads_marked (h : Piece x t) : Reads false (parenChars x ++ "[]".toList) (.array t) := by
  have htrim : IsTrimmed (parenChars x ++ "[]".toList) := by
    have h := IsTrimmed.surround (a := ['(']) (b := "[]".toList) (by decide) (by decide)
      (by decide) (by decide) (x.toList ++ [')'])
    exact h
  refine .array ?_ h.reads_paren
  rw [htrim]
  exact formOf_marked h.balanced.isClosed h.balanced.isPassed

end Piece

/-! ## Parameters -/

/-- A type with parameters is read from its name and the texts of its parameters, which have no
commas of their own. -/
theorem reads_generic_of_parts {name : String} {dots : List Char} {ws : List (List Char)}
    {ts : List TypeExpr} (hname : IsIdentifier name) (harray : name ≠ "Array")
    (hdots : dots = [] ∨ dots = ['.']) (hne : ws ≠ []) (hws : ∀ w ∈ ws, Balanced (· ≠ ',') w)
    (hread : List.Forall₂ (Reads false) ws ts) :
    Reads false (name.toList ++ dots ++ '<' :: ([','].intercalate ws ++ ['>']))
      (.generic name ts) := by
  have hinner : Balanced (fun _ => True) ([','].intercalate ws) := by
    refine .intercalate (.of_plain (List.forall_mem_singleton.2 (by decide))) fun w hw => ?_
    exact (hws w hw).mono fun _ _ => trivial
  have hhead := hname.isHead harray hdots
  have hsplit : split (· == ',') none ([','].intercalate ws) = .ok ws :=
    split_of_parts (by decide) (by decide) rfl hne fun w hw => (hws w hw).isPart_of_ne
  have hform := formOf_generic hhead hinner.isClosed hinner.isPassed
  rw [hsplit, hname.trimRightBy_eq hdots] at hform
  have htrim : IsTrimmed (name.toList ++ dots ++ '<' :: ([','].intercalate ws ++ ['>'])) := by
    have hfront : IsTrimmed name.toList := hname.isTrimmed
    have hwhole := hfront.surround (b := ['>']) (by decide) hname.ne_nil (by decide)
      (dots ++ '<' :: [','].intercalate ws)
    simpa using hwhole
  have hparts : ∀ p ∈ ws.zip ts, Reads false p.1 p.2 :=
    fun p hp => (List.forall₂_iff_zip.1 hread).2 hp
  have hgeneric : Reads false _ (.generic (String.ofList name.toList) ts) :=
    .generic (by rw [htrim]; exact hform) hread.length_eq hparts
  rwa [String.ofList_toList] at hgeneric

/-! ## Several pieces -/

section Pieces

variable {xs : List String} {ts : List TypeExpr}

theorem length_pieces (h : List.Forall₂ Piece xs ts) :
    (xs.map parenChars).length = ts.length := by
  rw [List.length_map, h.length_eq]

/-- The pieces are read one by one. -/
theorem reads_pieces (h : List.Forall₂ Piece xs ts) :
    ∀ p ∈ (xs.map parenChars).zip ts, Reads false p.1 p.2 := by
  have hread : List.Forall₂ (Reads false) (xs.map parenChars) ts :=
    List.forall₂_map_left_iff.2 (h.imp fun _ _ hp => hp.reads_paren)
  exact fun p hp => (List.forall₂_iff_zip.1 hread).2 hp

theorem balanced_pieces {p : Char → Prop} (h : List.Forall₂ Piece xs ts) :
    ∀ w ∈ xs.map parenChars, Balanced p w := by
  refine List.forall_mem_map.2 ?_
  induction h with
  | nil => exact nofun
  | cons hp _ ih => exact List.forall_mem_cons.2 ⟨hp.balanced_paren, ih⟩

theorem reads_union (h : List.Forall₂ Piece xs ts) (hlength : 2 ≤ xs.length) :
    Reads false (['|'].intercalate (xs.map parenChars)) (.union ts) := by
  have hne : xs.map parenChars ≠ [] := by
    rw [← List.length_pos_iff, List.length_map]
    omega
  have htrimmed : ∀ w ∈ xs.map parenChars, IsTrimmed w ∧ w ≠ [] := by
    refine List.forall_mem_map.2 fun x _ => ⟨?_, List.cons_ne_nil _ _⟩
    exact trim_enclosed (by decide) (by decide) x.toList
  have htrim : IsTrimmed (['|'].intercalate (xs.map parenChars)) :=
    (IsTrimmed.intercalate ['|'] hne htrimmed).1
  refine .union ?_ (length_pieces h) (reads_pieces h)
  rw [htrim]
  exact formOf_union (balanced_pieces h) (by simpa using hlength)

theorem reads_generic {name : String} {dots : List Char} (hname : IsIdentifier name)
    (harray : name ≠ "Array") (hdots : dots = [] ∨ dots = ['.']) (h : List.Forall₂ Piece xs ts)
    (hne : xs ≠ []) :
    Reads false (name.toList ++ dots ++ '<' :: ([','].intercalate (xs.map parenChars) ++ ['>']))
      (.generic name ts) :=
  reads_generic_of_parts hname harray hdots (by simpa using hne) (balanced_pieces h)
    (List.forall₂_map_left_iff.2 (h.imp fun _ _ hp => hp.reads_paren))

end Pieces

/-! ## Records -/

/-- A record field as it is written: its name, bare or in double quotes, and the text of its type in
parentheses. -/
structure FieldText where
  name : String
  isQuoted : Bool
  text : String

/-- The name of the field as it is written. -/
def FieldText.key (f : FieldText) : List Char :=
  if f.isQuoted then '"' :: (f.name.toList ++ ['"']) else f.name.toList

/-- The field as it is written. -/
def FieldText.chars (f : FieldText) : List Char :=
  f.key ++ ':' :: ' ' :: parenChars f.text

namespace FieldText

variable {f : FieldText}

theorem notMem_key (h : IsIdentifier f.name) {c : Char} (hc : (isWordChar c || c == '$') = false)
    (hquote : c ≠ '"') : c ∉ f.key := by
  have hname := h.notMem hc
  rw [key]
  split
  · simp [hname, hquote]
  · exact hname

theorem trim_key (h : IsIdentifier f.name) : trim f.key = f.key := by
  rw [key]
  split
  · exact trim_enclosed (by decide) (by decide) f.name.toList
  · exact h.isTrimmed

theorem trimBy_key (h : IsIdentifier f.name) :
    trimBy (fun c => c == '"' || c == '\'') f.key = f.name.toList := by
  have hname : trimBy (fun c => c == '"' || c == '\'') f.name.toList = f.name.toList := by
    refine trimBy_eq_self fun c hc => ?_
    have hdouble : c ≠ '"' := ne_of_mem_of_not_mem hc (h.notMem (by decide))
    have hsingle : c ≠ '\'' := ne_of_mem_of_not_mem hc (h.notMem (by decide))
    simp [hdouble, hsingle]
  rw [key]
  split
  · have hquotes : ∀ c ∈ ['"'], (c == '"' || c == '\'') = true := List.forall_mem_singleton.2 rfl
    rw [← List.singleton_append, trimBy_append_left hquotes, trimBy_append_right hquotes, hname]
  · exact hname

theorem isPart_key {sep : Char → Bool} (h : IsIdentifier f.name)
    (hsep : ∀ c ∈ f.name.toList, sep c = false) : IsPart sep f.key := by
  rw [key]
  split
  · refine .quote fun c hc => ⟨?_, ?_⟩
    · exact ne_of_mem_of_not_mem hc (h.notMem (by decide))
    · exact ne_of_mem_of_not_mem hc (h.notMem (by decide))
  · exact .of_plain fun c hc => ⟨(isPlain_of_isNameChar (h.isNameChar c hc)).1, hsep c hc⟩

theorem isPassed_key (h : IsIdentifier f.name) : IsPassed f.key := by
  -- The search for a closing bracket takes no notice of the quotes around the name.
  have hplain : ∀ c ∈ f.name.toList, closer? c = none ∧ isCloser c = false := by
    intro c hc
    have hc := (isPlain_of_isNameChar (h.isNameChar c hc)).1
    exact ⟨hc.notOpener, hc.notCloser⟩
  refine .of_noBracket fun c hc => ?_
  rw [key] at hc
  split at hc
  · obtain rfl | hc := List.mem_cons.1 hc
    · decide
    · obtain hc | hc := List.mem_append.1 hc
      · exact hplain c hc
      · rw [List.mem_singleton.1 hc]
        decide
  · exact hplain c hc

theorem isPart (h : IsIdentifier f.name) (hf : Piece f.text t) : IsPart (· == ',') f.chars := by
  have hcomma : ',' ∉ f.name.toList := h.notMem (by decide)
  have hkey : IsPart (· == ',') f.key :=
    isPart_key h fun c hc => beq_eq_false_iff_ne.2 (ne_of_mem_of_not_mem hc hcomma)
  have hrest : Balanced (· ≠ ',') (':' :: ' ' :: parenChars f.text) :=
    .plain (by decide) (by decide) (.plain (by decide) (by decide) hf.balanced_paren)
  exact hkey.append hrest.isPart_of_ne fun hquote => by simp at hquote

theorem isPassed (h : IsIdentifier f.name) (hf : Piece f.text t) : IsPassed f.chars := by
  have hrest : Balanced (fun _ => True) (':' :: ' ' :: parenChars f.text) :=
    .plain (by decide) trivial (.plain (by decide) trivial hf.balanced_paren)
  exact (isPassed_key h).append hrest.isPassed

/-- A field is taken apart into its name and the text of its type. -/
theorem fieldOf_chars (h : IsIdentifier f.name) :
    fieldOf f.chars = .ok (f.name.toList, ' ' :: parenChars f.text) ∧
      fieldOf (' ' :: f.chars) = .ok (f.name.toList, ' ' :: parenChars f.text) := by
  have hcolon : ':' ∉ f.key := notMem_key h (by decide) (by decide)
  have hblank : ':' ∉ ' ' :: f.key := by simp [hcolon]
  constructor
  · refine fieldOf_eq hcolon ?_ h.ne_nil _
    rw [trim_key h, trimBy_key h]
  · refine fieldOf_eq hblank ?_ h.ne_nil _
    rw [trim_cons_of_isBlank (by decide), trim_key h, trimBy_key h]

end FieldText

section Records

variable {fs : List FieldText} {ts : List TypeExpr}

theorem FieldText.isTrimmed {f : FieldText} (h : IsIdentifier f.name) : IsTrimmed f.chars := by
  have hne : f.key ≠ [] := by
    rw [FieldText.key]
    split
    · exact List.cons_ne_nil _ _
    · exact h.ne_nil
  have hkey : IsTrimmed f.key := FieldText.trim_key h
  have hwhole := hkey.surround (b := [')']) (by decide) hne (by decide)
    (':' :: ' ' :: '(' :: f.text.toList)
  simpa [FieldText.chars, parenChars] using hwhole

theorem recordForm_fieldTexts (hnames : ∀ f ∈ fs, IsIdentifier f.name)
    (h : ∀ f ∈ fs, ∃ t, Piece f.text t) :
    recordForm ([',', ' '].intercalate (fs.map FieldText.chars)) =
      .ok (.record (fs.map fun f => (f.name.toList, ' ' :: parenChars f.text))) := by
  by_cases hne : fs = []
  · subst hne
    rfl
  · have htexts : fs.map FieldText.chars ≠ [] := by simpa using hne
    have htrimmed : ∀ w ∈ fs.map FieldText.chars, IsTrimmed w ∧ w ≠ [] := by
      refine List.forall_mem_map.2 fun f hf => ⟨FieldText.isTrimmed (hnames f hf), ?_⟩
      simp [FieldText.chars]
    obtain ⟨hinner, hinnerne⟩ := IsTrimmed.intercalate [',', ' '] htexts htrimmed
    have hparts : ∀ w ∈ fs.map FieldText.chars, IsPart (· == ',') w := by
      refine List.forall_mem_map.2 fun f hf => ?_
      obtain ⟨t, ht⟩ := h f hf
      exact FieldText.isPart (hnames f hf) ht
    have hfields : List.Forall₂ (fun pair f => fieldOf pair = .ok f)
        (spaced (fs.map FieldText.chars))
        (fs.map fun f => (f.name.toList, ' ' :: parenChars f.text)) :=
      List.forall₂_map_right_iff.2
        (forall₂_spaced fs fun f hf => FieldText.fieldOf_chars (hnames f hf))
    exact recordForm_of_parts htexts (by rwa [hinner]) hparts hfields

theorem isClosed_fieldTexts (hnames : ∀ f ∈ fs, IsIdentifier f.name)
    (h : ∀ f ∈ fs, ∃ t, Piece f.text t) :
    IsClosed ([',', ' '].intercalate (fs.map FieldText.chars)) := by
  refine .intercalate (by decide) (by decide) (by decide) (by decide)
    (List.forall_mem_map.2 fun f hf => ?_)
  obtain ⟨t, ht⟩ := h f hf
  exact (FieldText.isPart (hnames f hf) ht).isClosed

theorem isPassed_fieldTexts (hnames : ∀ f ∈ fs, IsIdentifier f.name)
    (h : ∀ f ∈ fs, ∃ t, Piece f.text t) :
    IsPassed ([',', ' '].intercalate (fs.map FieldText.chars)) := by
  have hcommaBlank : ∀ c ∈ [',', ' '], closer? c = none ∧ isCloser c = false :=
    List.forall_mem_cons.2 ⟨by decide, List.forall_mem_singleton.2 (by decide)⟩
  refine .intercalate (.of_noBracket hcommaBlank) (List.forall_mem_map.2 fun f hf => ?_)
  obtain ⟨t, ht⟩ := h f hf
  exact FieldText.isPassed (hnames f hf) ht

/-- The types of the fields are read one by one, each under its name. -/
theorem forall₂_fieldTexts (h : List.Forall₂ (fun f t => Piece f.text t) fs ts) :
    List.Forall₂ (fun text f => String.ofList text.1 = f.1 ∧ Reads false text.2 f.2)
      (fs.map fun f => (f.name.toList, ' ' :: parenChars f.text)) ((fs.map (·.name)).zip ts) := by
  induction h with
  | nil => exact .nil
  | cons hf _ ih =>
    refine .cons ⟨String.ofList_toList, ?_⟩ ih
    exact hf.reads_paren.of_trim_eq (trim_cons_of_isBlank (by decide) _).symm

theorem reads_record (hnames : ∀ f ∈ fs, IsIdentifier f.name) (hdistinct : (fs.map (·.name)).Nodup)
    (h : List.Forall₂ (fun f t => Piece f.text t) fs ts) :
    Reads false ('\x7b' :: ([',', ' '].intercalate (fs.map FieldText.chars) ++ ['\x7d']))
      (.record ((fs.map (·.name)).zip ts)) := by
  have hpieces : ∀ f ∈ fs, ∃ t, Piece f.text t :=
    forall_left_of_zip h.length_eq fun q hq => ⟨q.2, (List.forall₂_iff_zip.1 h).2 hq⟩
  obtain ⟨hlength, hzip⟩ := List.forall₂_iff_zip.1 (forall₂_fieldTexts h)
  have hform : formOf false
      (trim ('\x7b' :: ([',', ' '].intercalate (fs.map FieldText.chars) ++ ['\x7d']))) =
      .ok (.record (fs.map fun f => (f.name.toList, ' ' :: parenChars f.text))) := by
    rw [trim_enclosed (by decide) (by decide),
      formOf_record (isClosed_fieldTexts hnames hpieces) (isPassed_fieldTexts hnames hpieces),
      recordForm_fieldTexts hnames hpieces]
  -- No field takes the place of another one.
  have hput : Entries.putAll [] ((fs.map (·.name)).zip ts) = (fs.map (·.name)).zip ts := by
    refine Entries.putAll_of_nodup [] _ ?_
    rwa [List.nil_append, List.map_fst_zip (by simp [h.length_eq])]
  have hread := Reads.record hform hlength (fun p hp => (hzip hp).1) fun p hp => (hzip hp).2
  rwa [hput] at hread

end Records

/-! ## Whatever is put together -/

/-- The text in parentheses. -/
def parenthesized (x : String) : String :=
  "(" ++ x ++ ")"

/-- The field as it is written. -/
def FieldText.spelling (f : FieldText) : String :=
  (if f.isQuoted then "\"" ++ f.name ++ "\"" else f.name) ++ ": " ++ parenthesized f.text

/-- The spellings of types, each with the type that is read from it, given the types of its
pieces. -/
structure Composes (read : String → TypeExpr) : Prop where
  blanks {x : String} {t : TypeExpr} (a b : String) (h : Piece x t)
    (ha : ∀ c ∈ a.toList, isBlank c = true) (hb : ∀ c ∈ b.toList, isBlank c = true) :
    read (a ++ x ++ b) = t
  group {x : String} {t : TypeExpr} (h : Piece x t) : read (parenthesized x) = t
  dotted {x : String} {t : TypeExpr} (h : Piece x t) : read ("Array.<" ++ x ++ ">") = .array t
  array {x : String} {t : TypeExpr} (h : Piece x t) : read ("Array<" ++ x ++ ">") = .array t
  marked {x : String} {t : TypeExpr} (h : Piece x t) : read (parenthesized x ++ "[]") = .array t
  union {xs : List String} {ts : List TypeExpr} (h : List.Forall₂ Piece xs ts)
    (hlength : 2 ≤ xs.length) : read ("|".intercalate (xs.map parenthesized)) = .union ts
  generic {name : String} {xs : List String} {ts : List TypeExpr} (hname : IsIdentifier name)
    (harray : name ≠ "Array") (h : List.Forall₂ Piece xs ts) (hne : xs ≠ []) :
    read (name ++ "<" ++ ",".intercalate (xs.map parenthesized) ++ ">") = .generic name ts
  genericDotted {name : String} {xs : List String} {ts : List TypeExpr} (hname : IsIdentifier name)
    (harray : name ≠ "Array") (h : List.Forall₂ Piece xs ts) (hne : xs ≠ []) :
    read (name ++ ".<" ++ ",".intercalate (xs.map parenthesized) ++ ">") = .generic name ts
  record {fs : List FieldText} {ts : List TypeExpr} (hnames : ∀ f ∈ fs, IsIdentifier f.name)
    (hdistinct : (fs.map (·.name)).Nodup)
    (h : List.Forall₂ (fun f t => Piece f.text t) fs ts) :
    read ("\x7b" ++ ", ".intercalate (fs.map FieldText.spelling) ++ "\x7d") =
      .record ((fs.map (·.name)).zip ts)

@[simp]
theorem toList_parenthesized (x : String) : (parenthesized x).toList = parenChars x := by
  simp [parenthesized, parenChars]

@[simp]
theorem toList_comp_parenthesized : String.toList ∘ parenthesized = parenChars :=
  funext toList_parenthesized

@[simp]
theorem toList_comp_spelling : String.toList ∘ FieldText.spelling = FieldText.chars := by
  funext f
  rw [Function.comp_apply, FieldText.spelling, FieldText.chars, FieldText.key]
  split <;> simp

theorem Reads.ofText (h : Reads false text t) {s : String} (hs : s.toList = text) :
    TypeExpr.ofText false s = t := by
  rw [TypeExpr.ofText, hs, h.parse]

theorem composes_ofText : Composes (TypeExpr.ofText false) where
  blanks a b h ha hb := by
    refine (h.reads.of_trim_eq ?_).ofText rfl
    rw [String.toList_append, String.toList_append, trim_append_right hb, trim_append_left ha]
  group h := h.reads_paren.ofText (by simp)
  dotted h := (h.reads_array (.inl rfl)).ofText (by simp)
  array h := (h.reads_array (.inr rfl)).ofText (by simp)
  marked h := h.reads_marked.ofText (by simp)
  union h hlength := (reads_union h hlength).ofText (by simp)
  generic hname harray h hne := (reads_generic hname harray (.inl rfl) h hne).ofText (by simp)
  genericDotted hname harray h hne :=
    (reads_generic hname harray (.inr rfl) h hne).ofText (by simp)
  record hnames hdistinct h := (reads_record hnames hdistinct h).ofText (by simp)

/-- What is read from a spelling follows from what its pieces are read as, whatever was read
before. -/
theorem composes_read {m : Memo} (hm : m.Reached) (limit : Nat) :
    Composes fun text => (m.read limit false text).1 := by
  have hread : (fun text => (m.read limit false text).1) = TypeExpr.ofText false :=
    funext fun text => hm.isFaithful.read_fst limit false text
  rw [hread]
  exact composes_ofText

theorem composes_read_nested :
    let m := (Memo.empty.read 8 true "a|b").2
    let a : TypeExpr := .union [.scalar "a", .array (.scalar "b")]
    let b : TypeExpr := .generic "Map" [.scalar "c", .scalar "d"]
    (m.read 8 false "\x7bids: (a|Array.<b>), \"$key\": (Map<c, d>)\x7d").1 =
      .record [("ids", a), ("$key", b)] ∧
    (m.read 8 false "Set.<(Map<c, d>),(a|Array.<b>)>").1 = .generic "Set" [b, a] := by
  intro m a b
  have hm : m.Reached := .read .empty 8 true "a|b"
  have hscalar (name : String) (hname : IsScalarName name) : WellFormed false (.scalar name) :=
    .scalar hname
  have ha : WellFormed false a := by
    refine .union (by decide) (fun _ => by decide) ?_
    simp only [List.forall_mem_cons]
    exact ⟨hscalar "a" (by decide), .array (hscalar "b" (by decide)), nofun⟩
  have hb : WellFormed false b := by
    refine .generic (by decide) (by decide) ?_
    simp only [List.forall_mem_cons]
    exact ⟨hscalar "c" (by decide), hscalar "d" (by decide), nofun⟩
  have hatext : Piece "a|Array.<b>" a := ⟨by decide, ha.parse_chars⟩
  have hbtext : Piece "Map<c, d>" b := ⟨by decide, hb.parse_chars⟩
  constructor
  · have hfields : List.Forall₂ (fun (f : FieldText) t => Piece f.text t)
        [⟨"ids", false, "a|Array.<b>"⟩, ⟨"$key", true, "Map<c, d>"⟩] [a, b] :=
      .cons hatext (.cons hbtext .nil)
    have hread := (composes_read hm 8).record (by decide) (by decide) hfields
    exact hread
  · have hparams : List.Forall₂ Piece ["Map<c, d>", "a|Array.<b>"] [b, a] :=
      .cons hbtext (.cons hatext .nil)
    have hname : IsIdentifier "Set" := by decide
    have hread := (composes_read hm 8).genericDotted hname (by decide) hparams (by decide)
    exact hread

end SceneBridge.TypeExpr
