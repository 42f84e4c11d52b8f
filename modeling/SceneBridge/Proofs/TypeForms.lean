import SceneBridge.Proofs.Scans
import SceneBridge.TypeExpr.Grammar

/-!
# Forms of written types

Which form the grammar gives to a text that is put together from balanced texts. The
forms are tried in a fixed order, so each of them has to be shown not to be taken for one
that is tried before it.
-/

namespace SceneBridge.TypeExpr

open Text Brackets

/-! ## Reading by forms -/

/-- Reading depends on nothing but the form of the trimmed text. -/
theorem parse_eq (naive : Bool) (text : List Char) :
    parse naive text = (formOf naive (trim text)).bind fun
      | .group inner => parse naive inner
      | .array element => (parse naive element).map .array
      | .union parts => (parseAll naive parts).map .union
      | .generic name parts => (parseAll naive parts).map (.generic (String.ofList name))
      | .record fields => (parseFields naive fields).map fun fs =>
          .record (fs.foldl (fun t f => Entries.put t f.1 f.2) [])
      | .scalar name => .ok (.scalar (String.ofList name)) := by
  rw [parse]
  split <;> simp [*, Except.bind]

theorem parse_congr {naive : Bool} {a b : List Char} (h : trim a = trim b) :
    parse naive a = parse naive b := by
  rw [parse_eq, parse_eq, h]

theorem mapM_eq_ok {α β : Type} {f : α → Except Malformed β} {xs : List α} {ys : List β} :
    xs.mapM f = .ok ys ↔ List.Forall₂ (fun x y => f x = .ok y) xs ys := by
  induction xs generalizing ys with
  | nil =>
    constructor
    · intro h
      cases h
      exact .nil
    · intro h
      cases h
      rfl
  | cons x xs ih =>
    rw [List.mapM_cons]
    constructor
    · intro h
      obtain ⟨y, hy, h⟩ := bind_eq_ok.1 h
      obtain ⟨zs, hzs, h⟩ := bind_eq_ok.1 h
      cases h
      exact .cons hy (ih.1 hzs)
    · intro h
      cases h with
      | cons hy hys => exact bind_eq_ok.2 ⟨_, hy, bind_eq_ok.2 ⟨_, ih.2 hys, rfl⟩⟩

/-- Texts are read one by one. -/
theorem parseAll_eq_ok {naive : Bool} {texts : List (List Char)} {ts : List TypeExpr} :
    parseAll naive texts = .ok ts ↔
      List.Forall₂ (fun text t => parse naive text = .ok t) texts ts := by
  have hmap : parseAll naive texts = texts.mapM (parse naive) := by
    induction texts with
    | nil =>
      rw [parseAll]
      rfl
    | cons text texts ih => rw [parseAll, ih, List.mapM_cons]
  rw [hmap, mapM_eq_ok]

/-- The types of fields are read one by one. -/
theorem parseFields_eq_ok {naive : Bool} {texts : List (List Char × List Char)}
    {fs : List (String × TypeExpr)} :
    parseFields naive texts = .ok fs ↔
      List.Forall₂ (fun text f => String.ofList text.1 = f.1 ∧ parse naive text.2 = .ok f.2)
        texts fs := by
  have hmap : parseFields naive texts =
      texts.mapM fun text => (parse naive text.2).map (Prod.mk (String.ofList text.1)) := by
    induction texts with
    | nil =>
      rw [parseFields]
      rfl
    | cons text texts ih =>
      rw [parseFields, ih, List.mapM_cons]
      cases parse naive text.2 <;> rfl
  have hfield (text : List Char × List Char) (f : String × TypeExpr) :
      (parse naive text.2).map (Prod.mk (String.ofList text.1)) = .ok f ↔
        String.ofList text.1 = f.1 ∧ parse naive text.2 = .ok f.2 := by
    rw [map_eq_ok]
    constructor
    · rintro ⟨t, ht, rfl⟩
      exact ⟨rfl, ht⟩
    · rintro ⟨hkey, hbody⟩
      exact ⟨f.2, hbody, Prod.ext hkey rfl⟩
  rw [hmap, mapM_eq_ok]
  simp only [hfield]

/-! ## Name characters -/

/-- The characters of names have no meaning besides. -/
theorem isPlain_of_isNameChar {c : Char} (h : isNameChar c = true) :
    IsPlain c ∧ c ≠ ',' ∧ c ≠ '|' := by
  refine ⟨isPlain_of_holds rfl h, ?_, ?_⟩
  · rintro rfl
    cases h
  · rintro rfl
    cases h

theorem isPlain_of_all {s : List Char} (h : s.all isNameChar = true) :
    ∀ c ∈ s, IsPlain c ∧ c ≠ ',' ∧ c ≠ '|' := by
  intro c hc
  exact isPlain_of_isNameChar (List.all_eq_true.1 h c hc)

/-! ## What is between brackets -/

variable {p : Char → Prop} {w rest : List Char}

theorem inside_enclosed (before w : List Char) (o k : Char) :
    inside (before ++ o :: (w ++ [k])) before.length = w := by
  rw [inside, ← List.drop_drop, List.drop_left, List.drop_one, List.tail_cons,
    List.dropLast_concat]

/-- A bracket that only characters without meaning stand before is closed in front of a bar
that is outside of brackets. -/
theorem wraps_before_bar {o k : Char} {before : List Char} (hw : Balanced p w)
    (ho : closer? o = some k) (hbefore : ∀ c ∈ before, IsPlain c ∧ c ≠ '|')
    (hfront : before ++ [o] <+: w ++ '|' :: rest) :
    wraps (w ++ '|' :: rest) before.length = false := by
  obtain ⟨more, hmore⟩ := hfront
  have heq : w ++ '|' :: rest = before ++ o :: more := by
    rw [← hmore, List.append_assoc, List.singleton_append]
  -- Either the bracket stands in front of the bar, and is closed there, or behind it.
  by_cases hlt : before.length < w.length
  · obtain ⟨j, hj, hclose⟩ := closeFrom_lt ho (fun c hc => (hbefore c hc).1) hw hlt heq 0
    rw [Nat.zero_add] at hclose
    have hmatch : matchingClose? (w ++ '|' :: rest) before.length = some (0 + j) := by
      rw [matchingClose?, heq, List.drop_left, hclose]
    simp only [wraps, hmatch, beq_eq_false_iff_ne, ne_eq, Option.some.injEq, List.length_append,
      List.length_cons]
    omega
  · -- The bar would have to be the bracket, or one of the characters before it.
    have hbar : (before ++ o :: more)[w.length]? = some '|' := by
      rw [← heq]
      simp
    rcases Nat.lt_or_eq_of_le (Nat.le_of_not_lt hlt) with hlt' | heq'
    · rw [List.getElem?_append_left hlt'] at hbar
      exact absurd rfl (hbefore _ (List.mem_of_getElem? hbar)).2
    · rw [heq', List.getElem?_append_right (Nat.le_refl _), Nat.sub_self, List.getElem?_cons_zero,
        Option.some.injEq] at hbar
      subst hbar
      cases ho

/-- A prefix that ends in an opening bracket does not wrap a text with a bar outside of brackets. -/
theorem isPrefixOf_and_wraps_eq_false (before : List Char) {o k : Char} (hw : Balanced p w)
    (ho : closer? o = some k) (hbefore : before.all isNameChar = true) :
    ((before ++ [o]).isPrefixOf (w ++ '|' :: rest) &&
      wraps (w ++ '|' :: rest) before.length) = false := by
  cases hfront : (before ++ [o]).isPrefixOf (w ++ '|' :: rest) with
  | false => rfl
  | true =>
    have hplain : ∀ c ∈ before, IsPlain c ∧ c ≠ '|' := by
      intro c hc
      obtain ⟨hc, -, hbar⟩ := isPlain_of_all hbefore c hc
      exact ⟨hc, hbar⟩
    rw [wraps_before_bar hw ho hplain (List.isPrefixOf_iff_prefix.1 hfront)]
    rfl

/-! ## Wrapped texts -/

/-- A text that is neither put in parentheses nor marked as a list in front. -/
structure IsBare (s : List Char) : Prop where
  nonempty : s ≠ []
  notGroup : (s.head? == some '(' && wraps s 0) = false
  notDotted : ("Array.<".toList.isPrefixOf s && wraps s 6) = false
  notArray : ("Array<".toList.isPrefixOf s && wraps s 5) = false

/-- Whether a bare text is a choice comes before all else. -/
theorem formOf_bare {naive : Bool} {s : List Char} (hs : IsBare s) :
    formOf naive s = (alternatives naive s).bind fun parts =>
      if parts.length > 1 then .ok (.union parts) else innerForm s := by
  have hempty : s.isEmpty = false := by simpa using hs.nonempty
  rw [formOf, hempty, hs.notGroup, hs.notDotted, hs.notArray]
  rfl

/-- A bare text without a bar outside of brackets has an inner form. -/
theorem formOf_single {s : List Char} (hs : IsBare s) (hw : IsPart (· == '|') s) :
    formOf false s = innerForm s := by
  have halternatives : alternatives false s = .ok [s] := hw.split
  rw [formOf_bare hs, halternatives]
  rfl

theorem formOf_group (naive : Bool) (hw : IsPassed w) :
    formOf naive ('(' :: (w ++ [')'])) = .ok (.group w) := by
  have hwraps : wraps ('(' :: (w ++ [')'])) 0 = true := wraps_enclosed (o := '(') rfl hw []
  have hinside : inside ('(' :: (w ++ [')'])) 0 = w := inside_enclosed [] w '(' ')'
  have hhead : (('(' :: (w ++ [')'])).head? == some '(') = true := rfl
  have hempty : ('(' :: (w ++ [')'])).isEmpty = false := rfl
  rw [formOf, hempty, hhead, hwraps, hinside]
  rfl

theorem formOf_array (naive : Bool) (hw : IsPassed w) :
    formOf naive ("Array.<".toList ++ w ++ ['>']) = .ok (.array w) := by
  have htext : "Array.<".toList ++ w ++ ['>'] = "Array.".toList ++ '<' :: (w ++ ['>']) := by simp
  have hwraps : wraps ("Array.".toList ++ '<' :: (w ++ ['>'])) 6 = true :=
    wraps_enclosed (o := '<') rfl hw "Array.".toList
  have hinside : inside ("Array.".toList ++ '<' :: (w ++ ['>'])) 6 = w :=
    inside_enclosed "Array.".toList w '<' '>'
  have hgroup : (("Array.".toList ++ '<' :: (w ++ ['>'])).head? == some '(') = false := rfl
  have hfront : "Array.<".toList.isPrefixOf ("Array.".toList ++ '<' :: (w ++ ['>'])) = true := rfl
  have hempty : ("Array.".toList ++ '<' :: (w ++ ['>'])).isEmpty = false := rfl
  rw [htext, formOf, hempty, hgroup, hfront, hwraps, hinside]
  rfl

theorem formOf_array_undotted (naive : Bool) (hw : IsPassed w) :
    formOf naive ("Array".toList ++ '<' :: (w ++ ['>'])) = .ok (.array w) := by
  have hwraps : wraps ("Array".toList ++ '<' :: (w ++ ['>'])) 5 = true :=
    wraps_enclosed (o := '<') rfl hw "Array".toList
  have hinside : inside ("Array".toList ++ '<' :: (w ++ ['>'])) 5 = w :=
    inside_enclosed "Array".toList w '<' '>'
  have hgroup : (("Array".toList ++ '<' :: (w ++ ['>'])).head? == some '(') = false := rfl
  have hdotted : "Array.<".toList.isPrefixOf ("Array".toList ++ '<' :: (w ++ ['>'])) = false := rfl
  have hfront : "Array<".toList.isPrefixOf ("Array".toList ++ '<' :: (w ++ ['>'])) = true := rfl
  have hempty : ("Array".toList ++ '<' :: (w ++ ['>'])).isEmpty = false := rfl
  rw [formOf, hempty, hgroup, hdotted, hfront, hwraps, hinside]
  rfl

theorem take_marked (s : List Char) :
    (s ++ "[]".toList).take ((s ++ "[]".toList).length - 2) = s := by
  simp

/-- Parentheses that end in front of a list mark are not around the whole text. -/
theorem formOf_marked (hw : IsClosed w) (hpassed : IsPassed w) :
    formOf false ('(' :: (w ++ [')']) ++ "[]".toList) = .ok (.array ('(' :: (w ++ [')']))) := by
  have hbare : IsBare ('(' :: (w ++ [')']) ++ "[]".toList) := by
    refine ⟨List.cons_ne_nil _ _, ?_, rfl, rfl⟩
    have hclose :
        matchingClose? ('(' :: (w ++ [')']) ++ "[]".toList) 0 = some (0 + 1 + w.length) := by
      have htext : '(' :: (w ++ [')']) ++ "[]".toList = '(' :: (w ++ ')' :: "[]".toList) := by simp
      rw [matchingClose?, List.drop_zero, htext, closeFrom_wrap rfl hpassed]
    have hwraps : wraps ('(' :: (w ++ [')']) ++ "[]".toList) 0 = false := by
      have hlength : "[]".toList.length = 2 := rfl
      simp only [wraps, hclose, beq_eq_false_iff_ne, ne_eq, Option.some.injEq, List.length_append,
        List.length_cons, List.length_nil, hlength]
      omega
    rw [hwraps, Bool.and_false]
  have hpart : IsPart (· == '|') ('(' :: (w ++ [')']) ++ "[]".toList) :=
    (IsPart.enclose (o := '(') rfl hw).append (.enclose (o := '[') rfl .nil)
      fun hquote => absurd hquote (by decide)
  have hmark : "[]".toList.isSuffixOf ('(' :: (w ++ [')']) ++ "[]".toList) = true :=
    List.isSuffixOf_iff_suffix.2 (List.suffix_append _ _)
  rw [formOf_single hbare hpart, innerForm, hmark, take_marked]
  simp

/-! ## Choices -/

theorem isBare_of_bar (hw : Balanced p w) : IsBare (w ++ '|' :: rest) where
  nonempty := by simp
  notGroup := by
    have hopen : ((w ++ '|' :: rest).head? == some '(') = ['('].isPrefixOf (w ++ '|' :: rest) := by
      cases w <;> simp [List.isPrefixOf, Bool.beq_comm]
    rw [hopen]
    exact isPrefixOf_and_wraps_eq_false [] hw (o := '(') rfl rfl
  notDotted :=
    isPrefixOf_and_wraps_eq_false "Array.".toList hw (o := '<') rfl (by decide)
  notArray :=
    isPrefixOf_and_wraps_eq_false "Array".toList hw (o := '<') rfl (by decide)

theorem formOf_union {ws : List (List Char)} (hws : ∀ w ∈ ws, Balanced (· ≠ '|') w)
    (hlength : 2 ≤ ws.length) : formOf false (['|'].intercalate ws) = .ok (.union ws) := by
  match ws, hlength with
  | w :: v :: vs, hlength =>
    have hparts : ∀ u ∈ w :: v :: vs, IsPart (· == '|') u :=
      fun u hu => (hws u hu).isPart_of_ne
    have hsplit : alternatives false (['|'].intercalate (w :: v :: vs)) = .ok (w :: v :: vs) :=
      split_of_parts (by decide) (by decide) rfl (List.cons_ne_nil _ _) hparts
    have htext : ['|'].intercalate (w :: v :: vs) = w ++ '|' :: ['|'].intercalate (v :: vs) := by
      rw [List.intercalate_cons_cons, List.append_assoc, List.singleton_append]
    have hbare : IsBare (['|'].intercalate (w :: v :: vs)) :=
      htext ▸ isBare_of_bar (hws w List.mem_cons_self)
    rw [formOf_bare hbare, hsplit]
    simp [Except.bind]

/-! ## Plain names -/

/-- Without a closing bracket at its end a text is not marked as a list behind. -/
theorem isSuffixOf_eq_false {s : List Char} (h : s.getLast? ≠ some ']') :
    "[]".toList.isSuffixOf s = false := by
  rw [Bool.eq_false_iff]
  intro hs
  obtain ⟨before, hbefore⟩ := List.isSuffixOf_iff_suffix.1 hs
  rw [← hbefore, List.getLast?_append] at h
  exact h rfl

/-- A text without the character does not start with a text that has it. -/
theorem isPrefixOf_eq_false {front s : List Char} {c : Char} (hfront : c ∈ front) (hs : c ∉ s) :
    front.isPrefixOf s = false := by
  rw [Bool.eq_false_iff]
  intro h
  exact hs ((List.isPrefixOf_iff_prefix.1 h).subset hfront)

theorem isBare_of_plain {s : List Char} (hne : s ≠ []) (hs : ∀ c ∈ s, IsPlain c) : IsBare s := by
  have hopener {c k : Char} (hc : closer? c = some k) : c ∉ s := by
    intro hmem
    rw [(hs c hmem).notOpener] at hc
    cases hc
  have hangle : '<' ∉ s := hopener (k := '>') rfl
  -- All three forms need an opening bracket.
  refine ⟨hne, ?_, ?_, ?_⟩
  · have hhead : (s.head? == some '(') = false := by
      refine beq_eq_false_iff_ne.2 fun h => ?_
      exact hopener (k := ')') rfl (List.mem_of_mem_head? h)
    rw [hhead, Bool.false_and]
  · rw [isPrefixOf_eq_false (c := '<') (by decide) hangle, Bool.false_and]
  · rw [isPrefixOf_eq_false (c := '<') (by decide) hangle, Bool.false_and]

theorem formOf_scalar {s : List Char} (hne : s ≠ []) (hs : ∀ c ∈ s, IsPlain c ∧ c ≠ '|') :
    formOf false s = .ok (.scalar s) := by
  have hpart : IsPart (· == '|') s := .of_plain fun c hc => ⟨(hs c hc).1, by simp [(hs c hc).2]⟩
  have hclose (k : Char) (hk : isCloser k = true) : s.getLast? ≠ some k := by
    intro h
    have := (hs k (List.mem_of_getLast? h)).1.notCloser
    rw [hk] at this
    cases this
  have hopen : (s.head? == some '\x7b') = false := by
    refine beq_eq_false_iff_ne.2 fun h => ?_
    exact absurd (hs _ (List.mem_of_mem_head? h)).1.notOpener (by decide)
  have hangle : (s.getLast? == some '>') = false := beq_eq_false_iff_ne.2 (hclose '>' rfl)
  have hsplit : split (· == '|') none s = .ok [s] := hpart.split
  rw [formOf_single (isBare_of_plain hne fun c hc => (hs c hc).1) hpart, innerForm,
    isSuffixOf_eq_false (hclose ']' rfl), hopen, hangle, hsplit]
  cases genericHead? s <;> rfl

/-! ## Records and generic types -/

theorem isBare_of_head {c : Char} {cs : List Char} (hc : c ≠ '(' ∧ c ≠ 'A') : IsBare (c :: cs) where
  nonempty := List.cons_ne_nil c cs
  notGroup := by simp [hc.1]
  notDotted := by simp [List.isPrefixOf, Ne.symm hc.2]
  notArray := by simp [List.isPrefixOf, Ne.symm hc.2]

theorem formOf_record (hw : IsClosed w) (hpassed : IsPassed w) :
    formOf false ('\x7b' :: (w ++ ['\x7d'])) = recordForm w := by
  have hpart : IsPart (· == '|') ('\x7b' :: (w ++ ['\x7d'])) := .enclose rfl hw
  have hwraps : wraps ('\x7b' :: (w ++ ['\x7d'])) 0 = true :=
    wraps_enclosed (o := '\x7b') rfl hpassed []
  have hinside : inside ('\x7b' :: (w ++ ['\x7d'])) 0 = w := inside_enclosed [] w '\x7b' '\x7d'
  have hlast : "[]".toList.isSuffixOf ('\x7b' :: (w ++ ['\x7d'])) = false :=
    isSuffixOf_eq_false (by simp [List.getLast?_cons])
  have hhead : genericHead? ('\x7b' :: (w ++ ['\x7d'])) = none := rfl
  rw [formOf_single (isBare_of_head (by decide)) hpart, innerForm, hlast, hhead, hwraps,
    hinside]
  rfl

/-- The characters of a name in front of parameters. -/
structure IsGenericHead (name : List Char) : Prop where
  starts : name.head?.any isNameStart = true
  goesOn : ∀ c ∈ name.tail, isNameChar c = true
  ends : name.getLast? ≠ some '.'
  notArray : name ≠ "Array".toList

instance (name : List Char) : Decidable (IsGenericHead name) :=
  decidable_of_iff (name.head?.any isNameStart = true ∧ name.tail.all isNameChar = true ∧
      name.getLast? ≠ some '.' ∧ name ≠ "Array".toList)
    ⟨fun ⟨hs, hc, he, ha⟩ => ⟨hs, List.all_eq_true.1 hc, he, ha⟩,
      fun ⟨hs, hc, he, ha⟩ => ⟨hs, List.all_eq_true.2 hc, he, ha⟩⟩

theorem toNat_of_isAlpha {c : Char} (h : c.isAlpha = true) : 65 ≤ c.toNat ∧ c.toNat ≤ 122 := by
  have hval : c.toNat = c.val.toNat := rfl
  have halpha : c.isAlpha =
      (decide (c.val ≥ 'A'.val ∧ c.val ≤ 'Z'.val) ||
        (decide (c.val ≥ 'a'.val) && decide (c.val ≤ 'z'.val))) := rfl
  simp only [halpha, Bool.or_eq_true, Bool.and_eq_true, decide_eq_true_eq] at h
  rw [hval]
  rcases h with ⟨hlow, hhigh⟩ | ⟨hlow, hhigh⟩
  · have hlow : 65 ≤ c.val.toNat := UInt32.le_iff_toNat_le.1 hlow
    have hhigh : c.val.toNat ≤ 90 := UInt32.le_iff_toNat_le.1 hhigh
    omega
  · have hlow : 97 ≤ c.val.toNat := UInt32.le_iff_toNat_le.1 hlow
    have hhigh : c.val.toNat ≤ 122 := UInt32.le_iff_toNat_le.1 hhigh
    omega

theorem isNameChar_of_isNameStart {c : Char} (h : isNameStart c = true) : isNameChar c = true := by
  simp only [isNameStart, Bool.or_eq_true, beq_iff_eq] at h
  rcases h with (h | rfl) | rfl
  · have hlt : c.toNat < 128 := by
      have := toNat_of_isAlpha h
      omega
    simp [isNameChar, isWordChar, hlt, Char.isAlphanum, h]
  · rfl
  · rfl

theorem isBlank_of_isNameStart {c : Char} (h : isNameStart c = true) : isBlank c = false := by
  simp only [isNameStart, Bool.or_eq_true, beq_iff_eq] at h
  rcases h with (h | rfl) | rfl
  · have hrange := toNat_of_isAlpha h
    simp only [isBlank, Bool.or_eq_false_iff, Bool.and_eq_false_iff, decide_eq_false_iff_not,
      beq_eq_false_iff_ne]
    omega
  · decide
  · decide

/-- What stands in front of parameters, unless these are the type of a list: a name, with or without
dots behind it. -/
structure IsHead (name : List Char) : Prop where
  starts : name.head?.any isNameStart = true
  goesOn : ∀ c ∈ name.tail, isNameChar c = true
  notArray : name ≠ "Array".toList
  notDotted : name ≠ "Array.".toList

theorem IsGenericHead.isHead {name : List Char} (h : IsGenericHead name) : IsHead name where
  starts := h.starts
  goesOn := h.goesOn
  notArray := h.notArray
  notDotted hname := h.ends (hname ▸ rfl)

namespace IsHead

variable {name : List Char}

theorem isNameChar (h : IsHead name) {c : Char} (hc : c ∈ name) :
    TypeExpr.isNameChar c = true := by
  cases name with
  | nil => cases hc
  | cons d ds =>
    rcases List.mem_cons.1 hc with rfl | hc
    · exact isNameChar_of_isNameStart (by simpa using h.starts)
    · exact h.goesOn c hc

theorem ne_nil (h : IsHead name) : name ≠ [] := by
  rintro rfl
  cases h.starts

theorem balanced (h : IsHead name) : Balanced (fun c => c ≠ ',' ∧ c ≠ '|') name :=
  .of_plain fun _ hc => isPlain_of_isNameChar (h.isNameChar hc)

theorem notMem_angle (h : IsHead name) : '<' ∉ name :=
  fun hc => absurd (h.isNameChar hc) (by decide)

/-- The name is all that stands in front of the first opening angle bracket. -/
theorem eq_of_isPrefixOf (h : IsHead name) (before : List Char) (hb : '<' ∉ before)
    (hfront : (before ++ ['<']).isPrefixOf (name ++ '<' :: rest) = true) : name = before := by
  have hcut {s : List Char} (hs : '<' ∉ s) (more : List Char) :
      (s ++ '<' :: more).takeWhile (· != '<') = s := by
    have hne : ∀ c ∈ s, (c != '<') = true := by
      rintro c hc
      exact bne_iff_ne.2 (ne_of_mem_of_not_mem hc hs)
    rw [List.takeWhile_append_of_pos hne, List.takeWhile_cons_of_neg (by simp), List.append_nil]
  obtain ⟨more, hmore⟩ := List.isPrefixOf_iff_prefix.1 hfront
  rw [List.append_assoc, List.singleton_append] at hmore
  rw [← hcut h.notMem_angle rest, ← hmore, hcut hb]

theorem isBare (h : IsHead name) : IsBare (name ++ '<' :: rest) where
  nonempty := by simp
  notGroup := by
    rw [Bool.and_eq_false_iff, List.head?_append_of_ne_nil _ h.ne_nil]
    refine .inl (beq_eq_false_iff_ne.2 fun hc => ?_)
    exact absurd (h.isNameChar (List.mem_of_mem_head? hc)) (by decide)
  notDotted := by
    rw [Bool.and_eq_false_iff]
    refine .inl (Bool.eq_false_iff.2 fun hfront => h.notDotted ?_)
    exact h.eq_of_isPrefixOf "Array.".toList (by decide) hfront
  notArray := by
    rw [Bool.and_eq_false_iff]
    refine .inl (Bool.eq_false_iff.2 fun hfront => h.notArray ?_)
    exact h.eq_of_isPrefixOf "Array".toList (by decide) hfront

theorem genericHead?_eq (h : IsHead name) :
    genericHead? (name ++ '<' :: rest) = some (name, name.length) := by
  cases name with
  | nil => cases h.starts
  | cons c cs =>
    have hstart : isNameStart c = true := by simpa using h.starts
    have hcs : ∀ d ∈ cs, TypeExpr.isNameChar d = true := h.goesOn
    have htake : (cs ++ '<' :: rest).takeWhile TypeExpr.isNameChar = cs := by
      rw [List.takeWhile_append_of_pos hcs, List.takeWhile_cons_of_neg (by decide),
        List.append_nil]
    have hdrop : (cs ++ '<' :: rest).dropWhile TypeExpr.isNameChar = '<' :: rest := by
      rw [List.dropWhile_append_of_pos hcs, List.dropWhile_cons_of_neg (by decide)]
    have hblank : isBlank '<' = false := by decide
    rw [List.cons_append, genericHead?, if_pos hstart, htake, hdrop]
    simp [hblank]

end IsHead

theorem IsGenericHead.trimRightBy_eq {name : List Char} (h : IsGenericHead name) :
    trimRightBy (· == '.') name = name := by
  refine trimRightBy_eq_self.2 fun c hc => beq_eq_false_iff_ne.2 ?_
  rintro rfl
  exact h.ends hc

theorem formOf_generic {name : List Char} (hname : IsHead name) (hw : IsClosed w)
    (hpassed : IsPassed w) :
    formOf false (name ++ '<' :: (w ++ ['>'])) =
      (split (· == ',') none w).map (.generic (trimRightBy (· == '.') name)) := by
  have hfront : IsPart (· == '|') name :=
    (hname.balanced.mono fun _ h => h.2).isPart_of_ne
  have hpart : IsPart (· == '|') (name ++ '<' :: (w ++ ['>'])) :=
    hfront.append (.enclose rfl hw) fun hquote => by simp at hquote
  have hlast : (name ++ '<' :: (w ++ ['>'])).getLast? = some '>' := by simp [List.getLast?_cons]
  have hwraps : wraps (name ++ '<' :: (w ++ ['>'])) name.length = true :=
    wraps_enclosed (o := '<') rfl hpassed name
  have hinside : inside (name ++ '<' :: (w ++ ['>'])) name.length = w :=
    inside_enclosed name w '<' '>'
  rw [formOf_single hname.isBare hpart, innerForm, isSuffixOf_eq_false (by simp [hlast]),
    hname.genericHead?_eq, hlast]
  simp only [hwraps, hinside, Bool.false_and]
  rfl

end SceneBridge.TypeExpr
