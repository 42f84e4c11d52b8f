import Mathlib.Data.List.Basic
import SceneBridge.Proofs.ColourTexts
import SceneBridge.Registry.Key

/-!
# Keys of keys

A key is its own key. Small letters have no small form but themselves, whatever alphabet they belong
to; a text without capitals of the plain alphabet is not broken into words; and neither step puts a
blank at an end of a text or a hyphen into it.
-/

namespace SceneBridge

open Text

namespace Text

variable {c l : Char} {cs before : List Char}

/-! ## Spans that are moved -/

namespace Span

variable {s t : Span} {n : Nat}

/-- The span at another place. -/
def moved (s : Span) (distance : Int) : Span :=
  ⟨(s.first + distance).toNat, (s.last + distance).toNat, s.stride⟩

/-- The spans do not overlap, or the code points of one are between those of the other. -/
def misses (s t : Span) : Bool :=
  s.last < t.first || t.last < s.first ||
    (s.stride == 2 || s.first == s.last) && t.stride == 2 && (s.first + t.first) % 2 == 1

theorem contains_moved (distance : Int) (h : 0 ≤ s.first + distance) (hn : s.contains n = true) :
    (s.moved distance).contains (n + distance).toNat = true := by
  unfold contains moved at *
  simp only [Bool.and_eq_true, decide_eq_true_eq, beq_iff_eq] at hn ⊢
  obtain ⟨⟨hfirst, hlast⟩, hstep⟩ := hn
  have hsame : (n + distance).toNat - (s.first + distance).toNat = n - s.first := by omega
  rw [hsame]
  exact ⟨⟨Int.toNat_le_toNat (by omega), Int.toNat_le_toNat (by omega)⟩, hstep⟩

theorem contains_eq_false_of_misses (h : s.misses t = true) (hn : s.contains n = true) :
    t.contains n = false := by
  simp only [contains, Bool.and_eq_true, decide_eq_true_eq, beq_iff_eq] at hn
  simp only [contains, Bool.and_eq_false_iff, decide_eq_false_iff_not, beq_eq_false_iff_ne]
  simp only [misses, Bool.or_eq_true, Bool.and_eq_true, decide_eq_true_eq, beq_iff_eq] at h
  obtain ⟨⟨hfirst, hlast⟩, hstep⟩ := hn
  obtain (h | h) | ⟨⟨hs | hone, ht⟩, hodd⟩ := h
  · omega
  · omega
  · rw [hs] at hstep
    rw [ht]
    omega
  · rw [ht]
    omega

end Span

/-! ## Small letters -/

/-- The character is its own small form in every text. -/
def IsSmall (c : Char) : Prop :=
  c.toNat ≠ 0x3A3 ∧ smallChar c = [c]

/-- Blanks beyond ASCII, and two characters whose small form is said apart from the table. -/
def specialSpans : List Span := [
  ⟨0x85, 0x85, 1⟩, ⟨0xA0, 0xA0, 1⟩, ⟨0x130, 0x130, 1⟩, ⟨0x3A3, 0x3A3, 1⟩, ⟨0x1680, 0x1680, 1⟩,
  ⟨0x2000, 0x200A, 1⟩, ⟨0x2028, 0x2029, 1⟩, ⟨0x202F, 0x202F, 1⟩, ⟨0x205F, 0x205F, 1⟩,
  ⟨0x3000, 0x3000, 1⟩]

theorem smallOffsets_miss : (smallOffsets.all fun e =>
    (specialSpans ++ smallOffsets.map (·.1)).all (e.1.moved e.2).misses) = true := by
  decide +kernel

/-- A character in none of the spans is its own small form, and no blank. -/
theorem isSmall_of_contains (hc : ¬ c.toNat < 128)
    (h : ∀ s ∈ specialSpans ++ smallOffsets.map (·.1), s.contains c.toNat = false) :
    IsSmall c ∧ isBlank c = false := by
  have hspecial : ∀ s ∈ specialSpans, s.contains c.toNat = false :=
    fun s hs => h s (List.mem_append_left _ hs)
  simp only [specialSpans, List.forall_mem_cons, Span.contains, Nat.mod_one, beq_self_eq_true,
    Bool.and_eq_false_iff, decide_eq_false_iff_not, Bool.true_eq_false, or_false,
    List.not_mem_nil, IsEmpty.forall_iff, implies_true, and_true] at hspecial
  have hfound : smallOffsets.find? (·.1.contains c.toNat) = none := by
    refine List.find?_eq_none.2 fun e he => ?_
    rw [h e.1 (List.mem_append_right _ (List.mem_map_of_mem he))]
    exact Bool.false_ne_true
  refine ⟨⟨by omega, ?_⟩, ?_⟩
  · rw [smallChar, if_neg hc, if_neg (by omega), hfound]
  · simp only [isBlank, Bool.or_eq_false_iff, Bool.and_eq_false_iff, decide_eq_false_iff_not,
      beq_eq_false_iff_ne]
    omega

/-- What the table has for a capital is its own small form, and no blank. -/
theorem isSmall_of_moved {e : Span × Int} (he : e ∈ smallOffsets) {n : Nat}
    (hn : e.1.contains n = true) :
    IsSmall (Char.ofNat (n + e.2).toNat) ∧ isBlank (Char.ofNat (n + e.2).toNat) = false := by
  have hbeyond := smallOffsets_beyond e he
  have hspan := hn
  simp only [Span.contains, Bool.and_eq_true, decide_eq_true_eq] at hspan
  by_cases hascii : (n + e.2).toNat < 128
  · -- Only the sign for kelvins has a small letter of ASCII.
    have hkelvin : (n + e.2).toNat = 107 := by omega
    rw [hkelvin]
    exact ⟨⟨by decide, rfl⟩, by decide⟩
  by_cases hvalid : (n + e.2).toNat.isValidChar
  · have hcode : (Char.ofNat (n + e.2).toNat).toNat = (n + e.2).toNat := by
      rw [Char.ofNat, dif_pos hvalid]
      rfl
    have hmoved := Span.contains_moved e.2 (by omega) hn
    refine isSmall_of_contains (by rwa [hcode]) fun s hs => ?_
    rw [hcode]
    have hmiss := List.all_eq_true.1 (List.all_eq_true.1 smallOffsets_miss e he) s hs
    exact Span.contains_eq_false_of_misses hmiss hmoved
  · have hzero : Char.ofNat (n + e.2).toNat = '\x00' := by
      rw [Char.ofNat, dif_neg hvalid]
      rfl
    rw [hzero]
    exact ⟨⟨by decide, rfl⟩, by decide⟩

/-- The small form of a character is small, and has a blank in it only if the character is one. -/
theorem isSmall_of_mem_smallChar (hc : c.toNat ≠ 0x3A3) (h : l ∈ smallChar c) :
    IsSmall l ∧ (isBlank c = false → isBlank l = false) := by
  by_cases hascii : c.toNat < 128
  · rw [smallChar_of_ascii hascii] at h
    obtain rfl := List.mem_singleton.1 h
    have hall : (c.toLower.toNat ≠ 0x3A3 ∧ smallChar c.toLower = [c.toLower]) ∧
        (isBlank c = false → isBlank c.toLower = false) :=
      Colour.forall_ascii
        (P := fun c => (c.toLower.toNat ≠ 0x3A3 ∧ smallChar c.toLower = [c.toLower]) ∧
          (isBlank c = false → isBlank c.toLower = false)) (by decide +kernel) hascii
    exact hall
  rw [smallChar, if_neg hascii] at h
  split at h
  · simp only [List.mem_cons, List.not_mem_nil, or_false] at h
    obtain rfl | rfl := h
    · exact ⟨⟨by decide, rfl⟩, fun _ => by decide⟩
    · exact ⟨⟨by decide, by decide +kernel⟩, fun _ => by decide⟩
  · rename_i hdotted
    split at h
    · rename_i span distance hfound
      obtain rfl := List.mem_singleton.1 h
      have hspan := List.find?_some hfound
      obtain ⟨hsmall, hblank⟩ := isSmall_of_moved (List.mem_of_find?_eq_some hfound) hspan
      exact ⟨hsmall, fun _ => hblank⟩
    · rename_i hfound
      obtain rfl := List.mem_singleton.1 h
      refine ⟨⟨hc, ?_⟩, id⟩
      rw [smallChar, if_neg hascii, if_neg hdotted, hfound]

theorem smallChar_ne_nil (c : Char) : smallChar c ≠ [] := by
  unfold smallChar
  split
  · exact List.cons_ne_nil _ _
  · split
    · exact List.cons_ne_nil _ _
    · split <;> exact List.cons_ne_nil _ _

/-- The small form of a text goes character by character. -/
theorem exists_smallFrom_cons (before : List Char) (c : Char) (cs : List Char) :
    ∃ part, part ≠ [] ∧ (∀ l ∈ part, IsSmall l ∧ (isBlank c = false → isBlank l = false)) ∧
      smallFrom before (c :: cs) = part ++ smallFrom (c :: before) cs := by
  rw [smallFrom]
  by_cases hc : c.toNat = 0x3A3
  · refine ⟨_, List.cons_ne_nil _ _, fun l hl => ?_, by rw [if_pos hc]⟩
    obtain rfl := List.mem_singleton.1 hl
    split
    · exact ⟨⟨by decide, by decide +kernel⟩, fun _ => by decide⟩
    · exact ⟨⟨by decide, by decide +kernel⟩, fun _ => by decide⟩
  · exact ⟨smallChar c, smallChar_ne_nil c, fun l hl => isSmall_of_mem_smallChar hc hl,
      by rw [if_neg hc]⟩

theorem isSmall_of_mem_smallFrom (h : l ∈ smallFrom before cs) : IsSmall l := by
  induction cs generalizing before with
  | nil => cases h
  | cons c cs ih =>
    obtain ⟨part, -, hpart, hsmall⟩ := exists_smallFrom_cons before c cs
    rw [hsmall] at h
    obtain h | h := List.mem_append.1 h
    · exact (hpart l h).1
    · exact ih h

/-- A text of small characters is its own small form. -/
theorem smallFrom_of_isSmall (h : ∀ c ∈ cs, IsSmall c) : smallFrom before cs = cs := by
  induction cs generalizing before with
  | nil => rfl
  | cons c cs ih =>
    obtain ⟨hc, hcs⟩ := List.forall_mem_cons.1 h
    rw [smallFrom, if_neg hc.1, hc.2, ih hcs]
    rfl

theorem smallFrom_eq_nil_iff : smallFrom before cs = [] ↔ cs = [] := by
  cases cs with
  | nil => exact ⟨fun _ => rfl, fun _ => rfl⟩
  | cons c cs =>
    obtain ⟨part, hne, -, hsmall⟩ := exists_smallFrom_cons before c cs
    rw [hsmall]
    exact ⟨fun h => absurd (List.append_eq_nil_iff.1 h).1 hne, fun h => nomatch h⟩

theorem isBlank_of_head?_smallFrom (h : ∀ c ∈ cs.head?, isBlank c = false) :
    ∀ l ∈ (smallFrom before cs).head?, isBlank l = false := by
  cases cs with
  | nil => exact h
  | cons c cs =>
    obtain ⟨part, hne, hpart, hsmall⟩ := exists_smallFrom_cons before c cs
    rw [hsmall, List.head?_append_of_ne_nil _ hne]
    exact fun l hl => (hpart l (List.mem_of_mem_head? hl)).2 (h c rfl)

theorem isBlank_of_getLast?_smallFrom (h : ∀ c ∈ cs.getLast?, isBlank c = false) :
    ∀ l ∈ (smallFrom before cs).getLast?, isBlank l = false := by
  induction cs generalizing before with
  | nil => exact h
  | cons c cs ih =>
    obtain ⟨part, hne, hpart, hsmall⟩ := exists_smallFrom_cons before c cs
    rw [hsmall]
    cases cs with
    | nil =>
      rw [smallFrom, List.append_nil]
      exact fun l hl => (hpart l (List.mem_of_getLast? hl)).2 (h c rfl)
    | cons d cs =>
      have hrest : smallFrom (c :: before) (d :: cs) ≠ [] :=
        smallFrom_eq_nil_iff.not.2 (List.cons_ne_nil d cs)
      rw [List.getLast?_append_of_ne_nil _ hrest]
      exact ih fun l hl => h l (List.getLast?_cons_cons.symm ▸ hl)

/-- Small letters leave a trimmed text trimmed. -/
theorem IsTrimmed.small (h : IsTrimmed cs) : IsTrimmed (small cs) := by
  obtain ⟨hfirst, hlast⟩ := isTrimmed_iff.1 h
  exact isTrimmed_iff.2 ⟨isBlank_of_head?_smallFrom hfirst, isBlank_of_getLast?_smallFrom hlast⟩

theorem dash_mem_of_small (h : '-' ∈ small cs) : '-' ∈ cs := by
  obtain ⟨c, hc, hdash⟩ := exists_of_mem_smallFrom (by decide) h
  by_cases hascii : c.toNat < 128
  · rw [smallChar_of_ascii hascii] at hdash
    have hall : c.toLower = '-' → c = '-' :=
      Colour.forall_ascii (P := fun c => c.toLower = '-' → c = '-') (by decide +kernel) hascii
    exact hall (List.mem_singleton.1 hdash).symm ▸ hc
  · obtain h | h := eq_of_mem_smallChar hascii (by decide) (by decide) hdash
    · cases h
    · cases h

end Text

namespace Registry

variable {c l : Char} {cs : List Char} {name key : String}

/-! ## Words -/

/-- The second text is the first one with underscores between some of its characters. -/
inductive IsBrokenInto : List Char → List Char → Prop where
  | refl (cs : List Char) : IsBrokenInto cs cs
  | keep (c : Char) {cs ds : List Char} (h : IsBrokenInto cs ds) : IsBrokenInto (c :: cs) (c :: ds)
  | cut (a b : Char) {cs ds : List Char} (h : IsBrokenInto (b :: cs) ds) :
    IsBrokenInto (a :: b :: cs) (a :: '_' :: ds)

namespace IsBrokenInto

variable {cs ds : List Char}

theorem append_left (as : List Char) (h : IsBrokenInto cs ds) :
    IsBrokenInto (as ++ cs) (as ++ ds) := by
  induction as with
  | nil => exact h
  | cons a as ih => exact .keep a ih

theorem mem (h : IsBrokenInto cs ds) (hl : l ∈ ds) : l ∈ cs ∨ l = '_' := by
  induction h with
  | refl cs => exact .inl hl
  | keep c h ih =>
    obtain rfl | hl := List.mem_cons.1 hl
    · exact .inl List.mem_cons_self
    · exact (ih hl).imp_left (List.mem_cons_of_mem c)
  | cut a b h ih =>
    obtain rfl | hl := List.mem_cons.1 hl
    · exact .inl List.mem_cons_self
    obtain rfl | hl := List.mem_cons.1 hl
    · exact .inr rfl
    · exact (ih hl).imp_left (List.mem_cons_of_mem a)

theorem head?_eq (h : IsBrokenInto cs ds) : ds.head? = cs.head? := by
  cases h <;> rfl

theorem eq_nil (h : IsBrokenInto cs ds) (hds : ds = []) : cs = [] := by
  rw [← List.head?_eq_none_iff, ← h.head?_eq, hds]
  rfl

theorem getLast?_eq (h : IsBrokenInto cs ds) : ds.getLast? = cs.getLast? := by
  induction h with
  | refl cs => rfl
  | keep c h ih => rw [List.getLast?_cons, List.getLast?_cons, ih]
  | @cut a b cs ds h ih =>
    obtain ⟨last, hlast⟩ : ∃ last, (b :: cs).getLast? = some last := ⟨_, List.getLast?_cons⟩
    rw [List.getLast?_cons_cons, List.getLast?_cons, List.getLast?_cons, ih, hlast]
    rfl

theorem isTrimmed (h : IsBrokenInto cs ds) (hcs : IsTrimmed cs) : IsTrimmed ds := by
  rw [isTrimmed_iff, h.head?_eq, h.getLast?_eq]
  exact isTrimmed_iff.1 hcs

end IsBrokenInto

theorem breakWords_isBroken (cs : List Char) : IsBrokenInto cs (breakWords cs) := by
  fun_induction breakWords cs with
  | case1 a b c cs h ih =>
    have hrest := ih.append_left (cs.takeWhile isPlainSmall)
    rw [List.takeWhile_append_dropWhile] at hrest
    exact .cut a b (.keep b (.keep c hrest))
  | case2 a b c cs h ih => exact .keep a ih
  | case3 cs h => exact .refl cs

theorem breakCapitals_isBroken (cs : List Char) : IsBrokenInto cs (breakCapitals cs) := by
  fun_induction breakCapitals cs with
  | case1 a b cs h ih => exact .cut a b (.keep b ih)
  | case2 a b cs h ih => exact .keep a ih
  | case3 cs h => exact .refl cs

theorem isPlainCapital_of_isSmall (h : IsSmall c) : isPlainCapital c = false := by
  by_cases hascii : c.toNat < 128
  · have hall : smallChar c = [c] → isPlainCapital c = false :=
      Colour.forall_ascii (P := fun c => smallChar c = [c] → isPlainCapital c = false)
        (by decide +kernel) hascii
    exact hall h.2
  · rw [isPlainCapital, Bool.and_eq_false_iff, decide_eq_false_iff_not, decide_eq_false_iff_not]
    refine .inr fun hz => hascii ?_
    have hcode : c.toNat ≤ 'Z'.toNat := hz
    exact Nat.lt_of_le_of_lt hcode (by decide)

/-- Small letters are not broken into words. -/
theorem breakWords_of_isSmall (h : ∀ c ∈ cs, IsSmall c) : breakWords cs = cs := by
  fun_induction breakWords cs with
  | case1 a b c cs hbreak ih =>
    have hb := isPlainCapital_of_isSmall (h b (by simp))
    simp [hb] at hbreak
  | case2 a b c cs hbreak ih => rw [ih fun d hd => h d (List.mem_cons_of_mem a hd)]
  | case3 cs => rfl

theorem breakCapitals_of_isSmall (h : ∀ c ∈ cs, IsSmall c) : breakCapitals cs = cs := by
  fun_induction breakCapitals cs with
  | case1 a b cs hbreak ih =>
    have hb := isPlainCapital_of_isSmall (h b (by simp))
    simp [hb] at hbreak
  | case2 a b cs hbreak ih => rw [ih fun d hd => h d (List.mem_cons_of_mem a hd)]
  | case3 cs => rfl

/-! ## Keys -/

/-- The text is a key: its spelling is settled. -/
structure IsKey (cs : List Char) : Prop where
  ne_nil : cs ≠ []
  trimmed : IsTrimmed cs
  small : ∀ c ∈ cs, IsSmall c
  dash : '-' ∉ cs

/-- A key is its own key. -/
theorem keyOf_of_isKey (h : IsKey cs) : keyOf cs = cs := by
  have hdash : cs.map (fun c => if c == '-' then '_' else c) = cs := by
    refine (List.map_congr_left fun c hc => if_neg ?_).trans (List.map_id cs)
    intro hequal
    exact h.dash (eq_of_beq hequal ▸ hc)
  have htrim : trim cs = cs := h.trimmed
  have hsmall : small cs = cs := smallFrom_of_isSmall h.small
  rw [keyOf, htrim, hdash, snake, breakWords_of_isSmall h.small,
    breakCapitals_of_isSmall h.small, hsmall, ite_self]

theorem isTrimmed_map {f : Char → Char} (hf : ∀ c, isBlank c = false → isBlank (f c) = false)
    (h : IsTrimmed cs) : IsTrimmed (cs.map f) := by
  rw [isTrimmed_iff] at h ⊢
  rw [List.head?_map, List.getLast?_map]
  constructor
  · intro l hl
    obtain ⟨c, hc, rfl⟩ := Option.map_eq_some_iff.1 hl
    exact hf c (h.1 c hc)
  · intro l hl
    obtain ⟨c, hc, rfl⟩ := Option.map_eq_some_iff.1 hl
    exact hf c (h.2 c hc)

theorem isKey_small (hne : cs ≠ []) (htrimmed : IsTrimmed cs) (hdash : '-' ∉ cs) :
    IsKey (small cs) where
  ne_nil := smallFrom_eq_nil_iff.not.2 hne
  trimmed := htrimmed.small
  small _ := isSmall_of_mem_smallFrom
  dash := mt dash_mem_of_small hdash

theorem isKey_keyOf (h : trim cs ≠ []) : IsKey (keyOf cs) := by
  rw [keyOf]
  have hne : (trim cs).map (fun c => if c == '-' then '_' else c) ≠ [] :=
    List.map_eq_nil_iff.not.2 h
  have hdash : '-' ∉ (trim cs).map (fun c => if c == '-' then '_' else c) := by
    intro hmem
    obtain ⟨c, -, hc⟩ := List.mem_map.1 hmem
    split at hc
    · cases hc
    · exact absurd hc (by simpa using ‹¬ (c == '-') = true›)
  have htrimmed : IsTrimmed ((trim cs).map fun c => if c == '-' then '_' else c) := by
    refine isTrimmed_map (fun c hc => ?_) (isTrimmed_trim cs)
    split
    · rfl
    · exact hc
  generalize (trim cs).map (fun c => if c == '-' then '_' else c) = name at *
  have hwords := breakWords_isBroken name
  have hcapitals := breakCapitals_isBroken (breakWords name)
  split
  · refine isKey_small (fun hnil => hne (hwords.eq_nil (hcapitals.eq_nil hnil)))
      (hcapitals.isTrimmed (hwords.isTrimmed htrimmed)) fun hmem => ?_
    obtain hmem | h := hcapitals.mem hmem
    · obtain hmem | h := hwords.mem hmem
      · exact hdash hmem
      · cases h
    · cases h
  · exact isKey_small hne htrimmed hdash

/-- The key of an accepted name is accepted, and its own key. -/
theorem key_of_key (h : Registry.key name = .ok key) : Registry.key key = .ok key := by
  rw [Registry.key] at h
  split at h
  · cases h
  rename_i hblank
  obtain rfl := Except.ok.inj h
  have hkey : IsKey (keyOf name.toList) := isKey_keyOf fun hnil => hblank (by rw [hnil]; rfl)
  have htrim : trim (keyOf name.toList) = keyOf name.toList := hkey.trimmed
  have hne : (keyOf name.toList).isEmpty = false := List.isEmpty_eq_false_iff.2 hkey.ne_nil
  rw [Registry.key, String.toList_ofList, htrim, keyOf_of_isKey hkey, hne]
  rfl

end Registry

end SceneBridge
