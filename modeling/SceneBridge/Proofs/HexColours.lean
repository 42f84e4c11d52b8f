import Mathlib.Data.List.Basic
import SceneBridge.Proofs.Failures
import SceneBridge.Proofs.NumberText

/-!
# Hexadecimal colours

A colour text has two hexadecimal digits for each of its three bytes, or one digit for each of them
that counts twice. All such texts are read. The reader of a byte is more lenient than that: of the two
characters of a byte, it lets one be a sign or a blank, and takes the decimal digits of every script.
No other texts are read than those that it lets pass in this way.
-/

namespace SceneBridge.Colour

open Text Number

/-! ## The grammar -/

/-- The character is the hexadecimal digit of the value, be it small or a capital. -/
def IsHexDigit (c : Char) (d : Nat) : Prop :=
  "0123456789abcdef".toList[d]? = some c ∨ "0123456789ABCDEF".toList[d]? = some c

instance (c : Char) (d : Nat) : Decidable (IsHexDigit c d) :=
  inferInstanceAs (Decidable (_ ∨ _))

/-- The text is written with digits for the three bytes, two for each or one that counts twice. -/
inductive Spells : List Char → List Nat → Prop
  | six {a b c d e f : Char} {i j k l m n : Nat} (ha : IsHexDigit a i) (hb : IsHexDigit b j)
      (hc : IsHexDigit c k) (hd : IsHexDigit d l) (he : IsHexDigit e m) (hf : IsHexDigit f n) :
      Spells [a, b, c, d, e, f] [16 * i + j, 16 * k + l, 16 * m + n]
  | three {a b c : Char} {i j k : Nat} (ha : IsHexDigit a i) (hb : IsHexDigit b j)
      (hc : IsHexDigit c k) : Spells [a, b, c] [16 * i + i, 16 * j + j, 16 * k + k]

/-- The character is read as a digit: a hexadecimal digit, or a decimal digit of any script. -/
def IsDigit (c : Char) (d : Nat) : Prop :=
  IsHexDigit c d ∨ digitValue? c = some d

/-- The two characters are read as a byte, of which at least one is a digit. -/
inductive IsByte : Char → Char → Int → Prop
  | digits {a b : Char} {i j : Nat} (ha : IsDigit a i) (hb : IsDigit b j) : IsByte a b (16 * i + j)
  | plus {b : Char} {j : Nat} (hb : IsDigit b j) : IsByte '+' b j
  | minus {b : Char} {j : Nat} (hb : IsDigit b j) : IsByte '-' b (-j)
  | blankBefore {a b : Char} {j : Nat} (ha : numeralBlank a = true) (hb : IsDigit b j) : IsByte a b j
  | blankAfter {a b : Char} {i : Nat} (ha : IsDigit a i) (hb : numeralBlank b = true) : IsByte a b i

/-- The text is read as the three bytes. -/
inductive Reads : List Char → List Int → Prop
  | six {a b c d e f : Char} {red green blue : Int} (hred : IsByte a b red)
      (hgreen : IsByte c d green) (hblue : IsByte e f blue) :
      Reads [a, b, c, d, e, f] [red, green, blue]
  | three {a b c : Char} {red green blue : Int} (hred : IsByte a a red) (hgreen : IsByte b b green)
      (hblue : IsByte c c blue) : Reads [a, b, c] [red, green, blue]

/-- The text is read as three bytes although some character of it is no hexadecimal digit. -/
def IsLoose (t : List Char) : Prop :=
  (∃ bytes, Reads t bytes) ∧ ∃ c ∈ t, ∀ d, ¬ IsHexDigit c d

/-! ## Digits -/

/-- What holds of the first characters one by one holds of all of them. -/
theorem forall_ascii {P : Char → Prop} (h : ∀ n < 128, P (Char.ofNat n)) {c : Char}
    (hc : c.toNat < 128) : P c := by
  have hp := h c.toNat hc
  rwa [Char.ofNat_toNat] at hp

theorem IsHexDigit.lt {c : Char} {d : Nat} (h : IsHexDigit c d) : d < 16 := by
  obtain h | h := h
  · exact (List.getElem?_eq_some_iff.1 h).1
  · exact (List.getElem?_eq_some_iff.1 h).1

theorem IsHexDigit.isAscii {c : Char} {d : Nat} (h : IsHexDigit c d) : c.toNat < 128 := by
  have hall : ("0123456789abcdef".toList ++ "0123456789ABCDEF".toList).all
      (fun c => decide (c.toNat < 128)) = true := by decide
  have hascii : c ∈ "0123456789abcdef".toList ++ "0123456789ABCDEF".toList → c.toNat < 128 := by
    intro hc
    simpa using List.all_eq_true.1 hall c hc
  obtain h | h := h
  · exact hascii (List.mem_append_left _ (List.mem_of_getElem? h))
  · exact hascii (List.mem_append_right _ (List.mem_of_getElem? h))

/-- Beyond ASCII there are no hexadecimal digits. -/
theorem digit?_eq_none {c : Char} (hc : ¬ c.toNat < 128) : digit? c = none := by
  have hdigit : c.isDigit = false := by
    rw [Bool.eq_false_iff]
    intro h
    have hrange : 48 ≤ c.toNat ∧ c.toNat ≤ 57 := Char.isDigit_iff_toNat.1 h
    omega
  have hlower : c.toLower = c := by
    refine dif_neg ?_
    rintro ⟨-, hcapital⟩
    have hcapital : c.toNat ≤ 90 := UInt32.le_iff_toNat_le.1 hcapital
    omega
  have hbeyond : ¬ c ≤ 'f' := by
    intro hsmall
    have hsmall : c.toNat ≤ 102 := hsmall
    omega
  simp [digit?, hdigit, hlower, hbeyond]

theorem digit?_eq_some_iff {c : Char} {d : Nat} : digit? c = some d ↔ IsHexDigit c d := by
  by_cases hc : c.toNat < 128
  · -- The characters of ASCII are few enough to look at each of them.
    have hsame : ∀ d < 16, digit? c = some d ↔ IsHexDigit c d :=
      forall_ascii (P := fun c => ∀ d < 16, digit? c = some d ↔ IsHexDigit c d) (by decide +kernel) hc
    have hsmall : ∀ d ∈ digit? c, d < 16 :=
      forall_ascii (P := fun c => ∀ d ∈ digit? c, d < 16) (by decide +kernel) hc
    exact ⟨fun h => (hsame d (hsmall d h)).1 h, fun h => (hsame d h.lt).2 h⟩
  · rw [digit?_eq_none hc]
    exact iff_of_false nofun fun h => hc h.isAscii

/-- A decimal digit of any script, as an ASCII digit. -/
def asAscii (c : Char) : Char :=
  match digitValue? c with
  | some d => Char.ofNat (48 + d)
  | none => c

theorem numeralChars_eq (cs : List Char) :
    numeralChars cs = (trimBy numeralBlank cs).map asAscii :=
  rfl

theorem asAscii_of_ascii {c : Char} (hc : c.toNat < 128) : asAscii c = c :=
  forall_ascii (P := fun c => asAscii c = c) (by decide +kernel) hc

/-- The digits beyond ASCII are where the zeros of the scripts are. -/
theorem digitValue?_eq_some {c : Char} {d : Nat} (hc : ¬ c.toNat < 128)
    (h : digitValue? c = some d) : d < 10 ∧ ∃ z ∈ digitZeros, c = Char.ofNat (z + d) := by
  unfold digitValue? at h
  simp only [hc, if_false] at h
  obtain ⟨z, hfound, rfl⟩ := Option.map_eq_some_iff.1 h
  have hz := List.find?_some hfound
  simp only [Bool.and_eq_true, decide_eq_true_eq] at hz
  refine ⟨by omega, z, List.mem_of_find?_eq_some hfound, ?_⟩
  rw [Nat.add_sub_cancel' hz.1, Char.ofNat_toNat]

theorem digit?_asAscii {c : Char} {d : Nat} : digit? (asAscii c) = some d ↔ IsDigit c d := by
  by_cases hc : c.toNat < 128
  · -- The decimal digits of ASCII are hexadecimal digits.
    have hdecimal : ∀ d ∈ digitValue? c, IsHexDigit c d :=
      forall_ascii (P := fun c => ∀ d ∈ digitValue? c, IsHexDigit c d) (by decide +kernel) hc
    rw [asAscii_of_ascii hc, digit?_eq_some_iff]
    exact ⟨.inl, fun h => h.elim id (hdecimal d)⟩
  · have hnone : ¬ IsHexDigit c d := fun h => hc h.isAscii
    rw [IsDigit, or_iff_right hnone, asAscii]
    cases hdecimal : digitValue? c with
    | none => simp [digit?_eq_none hc]
    | some e =>
      have hvalues : ∀ e < 10, digit? (Char.ofNat (48 + e)) = some e := by decide
      rw [hvalues e (digitValue?_eq_some hc hdecimal).1]

theorem IsDigit.notBlank {c : Char} {d : Nat} (h : IsDigit c d) : numeralBlank c = false := by
  by_cases hc : c.toNat < 128
  · have hascii : digit? (asAscii c) = none ∨ numeralBlank c = false :=
      forall_ascii (P := fun c => digit? (asAscii c) = none ∨ numeralBlank c = false)
        (by decide +kernel) hc
    exact hascii.resolve_left (by simp [digit?_asAscii.2 h])
  · have hdecimal := h.resolve_left fun h => hc h.isAscii
    obtain ⟨hd, z, hz, rfl⟩ := digitValue?_eq_some hc hdecimal
    have hscripts : ∀ z ∈ digitZeros, ∀ d < 10, numeralBlank (Char.ofNat (z + d)) = false := by
      decide +kernel
    exact hscripts z hz d hd

theorem not_isDigit_sign {c : Char} {d : Nat} (hc : c = '-' ∨ c = '+') : ¬ IsDigit c d := by
  rw [← digit?_asAscii]
  obtain rfl | rfl := hc <;> simp [show digit? (asAscii '-') = none by decide,
    show digit? (asAscii '+') = none by decide]

/-! ## Bytes -/

variable {a b c : Char} {cs : List Char} {n : Int}

/-- A sign is no other character in disguise. -/
theorem asAscii_eq_sign_iff {sign : Char} (hsign : sign = '-' ∨ sign = '+') :
    asAscii c = sign ↔ c = sign := by
  constructor
  · intro h
    by_cases hc : c.toNat < 128
    · rwa [asAscii_of_ascii hc] at h
    · unfold asAscii at h
      split at h
      · rename_i d hdecimal
        have hnone : ∀ d < 10, Char.ofNat (48 + d) ≠ '-' ∧ Char.ofNat (48 + d) ≠ '+' := by decide
        obtain ⟨hminus, hplus⟩ := hnone d (digitValue?_eq_some hc hdecimal).1
        obtain rfl | rfl := hsign
        · exact absurd h hminus
        · exact absurd h hplus
      · exact h
  · rintro rfl
    obtain rfl | rfl := hsign <;> decide

theorem takeSign_asAscii (c : Char) (cs : List Char) :
    takeSign ((c :: cs).map asAscii) =
      if c = '-' then (true, cs.map asAscii) else if c = '+' then (false, cs.map asAscii)
      else (false, (c :: cs).map asAscii) := by
  rw [List.map_cons, takeSign_cons]
  simp only [asAscii_eq_sign_iff, true_or, or_true]

/-- A character that is left alone must be a digit. -/
theorem readByte?_single (h : trimBy numeralBlank cs = [c]) :
    readByte? cs = some n ↔ ∃ d, IsDigit c d ∧ n = d := by
  rw [readByte?, numeralChars_eq, h, takeSign_asAscii]
  by_cases hminus : c = '-'
  · simp [hminus, not_isDigit_sign]
  · by_cases hplus : c = '+'
    · simp [hplus, not_isDigit_sign]
    · cases hc : digit? (asAscii c) <;>
        simp [hminus, hplus, ← digit?_asAscii, hc, eq_comm]

/-- Two characters are two digits, or a sign and a digit. -/
theorem readByte?_double (h : trimBy numeralBlank cs = [a, b]) :
    readByte? cs = some n ↔
      (∃ i j, IsDigit a i ∧ IsDigit b j ∧ n = 16 * i + j) ∨
      (a = '+' ∧ ∃ j, IsDigit b j ∧ n = j) ∨ (a = '-' ∧ ∃ j, IsDigit b j ∧ n = -j) := by
  rw [readByte?, numeralChars_eq, h, takeSign_asAscii]
  by_cases hminus : a = '-'
  · cases hb : digit? (asAscii b) <;>
      simp [hminus, not_isDigit_sign, ← digit?_asAscii, hb, eq_comm]
  · by_cases hplus : a = '+'
    · cases hb : digit? (asAscii b) <;>
        simp [hplus, not_isDigit_sign, ← digit?_asAscii, hb, eq_comm]
    · cases ha : digit? (asAscii a) <;> cases hb : digit? (asAscii b) <;>
        simp [hminus, hplus, ← digit?_asAscii, ha, hb, eq_comm]

/-- Two characters without the blanks around them. -/
theorem trimBy_pair (p : Char → Bool) (a b : Char) :
    trimBy p [a, b] =
      if p a then (if p b then [] else [b]) else (if p b then [a] else [a, b]) := by
  cases ha : p a <;> cases hb : p b <;> simp [trimBy, trimLeftBy, trimRightBy, ha, hb]

theorem readByte?_pair : readByte? [a, b] = some n ↔ IsByte a b n := by
  -- Which of the two characters are blank decides what is left to be read.
  have htrim := trimBy_pair numeralBlank a b
  constructor
  · intro h
    cases ha : numeralBlank a <;> cases hb : numeralBlank b <;>
      simp only [ha, hb, if_true, if_false, Bool.false_eq_true] at htrim
    · obtain ⟨i, j, hi, hj, rfl⟩ | ⟨rfl, j, hj, rfl⟩ | ⟨rfl, j, hj, rfl⟩ :=
        (readByte?_double htrim).1 h
      · exact .digits hi hj
      · exact .plus hj
      · exact .minus hj
    · obtain ⟨i, hi, rfl⟩ := (readByte?_single htrim).1 h
      exact .blankAfter hi hb
    · obtain ⟨j, hj, rfl⟩ := (readByte?_single htrim).1 h
      exact .blankBefore ha hj
    · simp [readByte?, numeralChars_eq, htrim, takeSign] at h
  · intro h
    have hsign : numeralBlank '+' = false ∧ numeralBlank '-' = false := by decide
    cases h with
    | digits ha hb =>
      rw [ha.notBlank, hb.notBlank] at htrim
      exact (readByte?_double htrim).2 (.inl ⟨_, _, ha, hb, rfl⟩)
    | plus hb =>
      rw [hsign.1, hb.notBlank] at htrim
      exact (readByte?_double htrim).2 (.inr (.inl ⟨rfl, _, hb, rfl⟩))
    | minus hb =>
      rw [hsign.2, hb.notBlank] at htrim
      exact (readByte?_double htrim).2 (.inr (.inr ⟨rfl, _, hb, rfl⟩))
    | blankBefore ha hb =>
      rw [ha, hb.notBlank] at htrim
      exact (readByte?_single htrim).2 ⟨_, hb, rfl⟩
    | blankAfter ha hb =>
      rw [ha.notBlank, hb] at htrim
      exact (readByte?_single htrim).2 ⟨_, ha, rfl⟩

/-! ## Texts -/

/-- A shorter text counts every digit twice. -/
def doubled (t : List Char) : List Char :=
  if t.length == 3 then t.flatMap fun c => [c, c] else t

theorem ofHex_of_doubled {text t : List Char} (h : doubled (dropMark (trim text)) = t) :
    ofHex text =
      if t.length != 6 then .error (.colourLength (String.ofList text))
      else
        match readByte? (t.take 2), readByte? ((t.drop 2).take 2), readByte? (t.drop 4) with
        | some r, some g, some b => .ok [channel r, channel g, channel b]
        | _, _, _ => .error (.colourDigits (String.ofList text)) := by
  subst h
  rfl

theorem ofHex_of_six {text : List Char} {a b c d e f : Char} {channels : List Float}
    (h : doubled (dropMark (trim text)) = [a, b, c, d, e, f]) :
    ofHex text = .ok channels ↔ ∃ red green blue, IsByte a b red ∧ IsByte c d green ∧
      IsByte e f blue ∧ channels = [channel red, channel green, channel blue] := by
  have heq : ofHex text =
      match readByte? [a, b], readByte? [c, d], readByte? [e, f] with
      | some r, some g, some b => .ok [channel r, channel g, channel b]
      | _, _, _ => .error (.colourDigits (String.ofList text)) :=
    ofHex_of_doubled h
  simp only [heq, ← readByte?_pair]
  cases readByte? [a, b] <;> cases readByte? [c, d] <;> cases readByte? [e, f] <;> simp [eq_comm]

theorem length_eq_six {t : List Char} (h : t.length = 6) :
    ∃ a b c d e f, t = [a, b, c, d, e, f] :=
  match t, h with
  | [a, b, c, d, e, f], _ => ⟨a, b, c, d, e, f, rfl⟩

theorem Reads.length {t : List Char} {bytes : List Int} (h : Reads t bytes) :
    t.length = 3 ∨ t.length = 6 := by
  cases h with
  | six => exact .inr rfl
  | three => exact .inl rfl

/-- The channels of a text are those of the bytes that it is read as. -/
theorem ofHex_eq_ok_iff {text : List Char} {channels : List Float} :
    ofHex text = .ok channels ↔
      ∃ bytes, Reads (dropMark (trim text)) bytes ∧ channels = bytes.map channel := by
  generalize ht : dropMark (trim text) = t
  by_cases h3 : t.length = 3
  · obtain ⟨a, b, c, rfl⟩ := List.length_eq_three.1 h3
    have hdoubled : doubled (dropMark (trim text)) = [a, a, b, b, c, c] := by rw [ht]; rfl
    rw [ofHex_of_six hdoubled]
    constructor
    · rintro ⟨red, green, blue, hred, hgreen, hblue, rfl⟩
      exact ⟨[red, green, blue], .three hred hgreen hblue, rfl⟩
    · rintro ⟨_, hreads, rfl⟩
      cases hreads with
      | three hred hgreen hblue => exact ⟨_, _, _, hred, hgreen, hblue, rfl⟩
  by_cases h6 : t.length = 6
  · obtain ⟨a, b, c, d, e, f, rfl⟩ := length_eq_six h6
    have hdoubled : doubled (dropMark (trim text)) = [a, b, c, d, e, f] := by rw [ht]; rfl
    rw [ofHex_of_six hdoubled]
    constructor
    · rintro ⟨red, green, blue, hred, hgreen, hblue, rfl⟩
      exact ⟨[red, green, blue], .six hred hgreen hblue, rfl⟩
    · rintro ⟨_, hreads, rfl⟩
      cases hreads with
      | six hred hgreen hblue => exact ⟨_, _, _, hred, hgreen, hblue, rfl⟩
  · -- Of any other length, the text is neither doubled nor read.
    have hdoubled : doubled (dropMark (trim text)) = t := by simp [ht, doubled, h3]
    rw [ofHex_of_doubled hdoubled]
    constructor
    · simp [h6]
    · rintro ⟨bytes, hreads, -⟩
      exact absurd hreads.length (by omega)

/-- A text that is not read has a bad value. -/
theorem kind_of_ofHex_eq_error {text : List Char} {f : Fault} (h : ofHex text = .error f) :
    f.kind = .value := by
  rw [ofHex_of_doubled rfl] at h
  split at h
  · cases h
    rfl
  · split at h
    · cases h
    · cases h
      rfl

/-! ## The grammar and the reader -/

theorem Spells.isHexDigit {t : List Char} {bytes : List Nat} (h : Spells t bytes) :
    ∀ c ∈ t, ∃ d, IsHexDigit c d := by
  cases h with
  | six ha hb hc hd he hf =>
    simp only [List.forall_mem_cons]
    exact ⟨⟨_, ha⟩, ⟨_, hb⟩, ⟨_, hc⟩, ⟨_, hd⟩, ⟨_, he⟩, ⟨_, hf⟩, nofun⟩
  | three ha hb hc =>
    simp only [List.forall_mem_cons]
    exact ⟨⟨_, ha⟩, ⟨_, hb⟩, ⟨_, hc⟩, nofun⟩

/-- Every text of the grammar is read as the bytes that it spells. -/
theorem Spells.reads {t : List Char} {bytes : List Nat} (h : Spells t bytes) :
    Reads t (bytes.map fun b => (b : Int)) := by
  have hbyte : ∀ {a b : Char} {i j : Nat}, IsHexDigit a i → IsHexDigit b j →
      IsByte a b (16 * i + j : Nat) := by
    intro a b i j ha hb
    push_cast
    exact .digits (.inl ha) (.inl hb)
  cases h with
  | six ha hb hc hd he hf => exact .six (hbyte ha hb) (hbyte hc hd) (hbyte he hf)
  | three ha hb hc => exact .three (hbyte ha ha) (hbyte hb hb) (hbyte hc hc)

/-- A text of hexadecimal digits that is read is one of the grammar. -/
theorem Reads.spells {t : List Char} {bytes : List Int} (h : Reads t bytes)
    (hdigits : ∀ c ∈ t, ∃ d, IsHexDigit c d) : ∃ bytes, Spells t bytes := by
  cases h with
  | six =>
    simp only [List.forall_mem_cons] at hdigits
    obtain ⟨⟨_, ha⟩, ⟨_, hb⟩, ⟨_, hc⟩, ⟨_, hd⟩, ⟨_, he⟩, ⟨_, hf⟩, -⟩ := hdigits
    exact ⟨_, .six ha hb hc hd he hf⟩
  | three =>
    simp only [List.forall_mem_cons] at hdigits
    obtain ⟨⟨_, ha⟩, ⟨_, hb⟩, ⟨_, hc⟩, -⟩ := hdigits
    exact ⟨_, .three ha hb hc⟩

theorem Spells.lt {t : List Char} {bytes : List Nat} (h : Spells t bytes) : ∀ b ∈ bytes, b < 256 := by
  cases h with
  | six ha hb hc hd he hf =>
    have := ha.lt; have := hb.lt; have := hc.lt; have := hd.lt; have := he.lt; have := hf.lt
    simp only [List.forall_mem_cons]
    exact ⟨by omega, by omega, by omega, nofun⟩
  | three ha hb hc =>
    have := ha.lt; have := hb.lt; have := hc.lt
    simp only [List.forall_mem_cons]
    exact ⟨by omega, by omega, by omega, nofun⟩

set_option maxRecDepth 4000 in
/-- The channel of a byte is from 0 to 1. -/
theorem channel_mem_unit {b : Nat} (h : b < 256) : 0 ≤ channel b ∧ channel b ≤ 1 := by
  have hall : (List.range 256).all
      (fun b => decide (0 ≤ channel b) && decide (channel b ≤ 1)) = true := by decide +kernel
  have hb := List.all_eq_true.1 hall b (List.mem_range.2 h)
  simpa using hb

/-- Every text of hexadecimal digits, two for each byte or one that counts twice, is read as the
bytes that it spells, and the channels are from 0 to 1. A text that spells no bytes is a bad value,
unless it is loose: then it is read although the grammar does not have it. -/
theorem ofHex_of_spells_or_isLoose (text : List Char) :
    (∀ bytes, Spells (dropMark (trim text)) bytes →
      ofHex text = .ok (bytes.map fun b => channel b) ∧
        ∀ b ∈ bytes, 0 ≤ channel b ∧ channel b ≤ 1) ∧
    ((∀ bytes, ¬ Spells (dropMark (trim text)) bytes) → ¬ IsLoose (dropMark (trim text)) →
      ∃ f, ofHex text = .error f ∧ f.kind = .value) ∧
    (IsLoose (dropMark (trim text)) → (∀ bytes, ¬ Spells (dropMark (trim text)) bytes) ∧
      ∃ bytes, Reads (dropMark (trim text)) bytes ∧ ofHex text = .ok (bytes.map channel)) := by
  refine ⟨fun bytes h => ⟨?_, fun b hb => channel_mem_unit (h.lt b hb)⟩, fun hspells hloose => ?_, ?_⟩
  · exact ofHex_eq_ok_iff.2 ⟨_, h.reads, by rw [List.map_map]; rfl⟩
  · cases hread : ofHex text with
    | error f => exact ⟨f, rfl, kind_of_ofHex_eq_error hread⟩
    | ok channels =>
      obtain ⟨bytes, hreads, -⟩ := ofHex_eq_ok_iff.1 hread
      -- It is read and has no loose character, so that the digits in it spell bytes after all.
      refine absurd ⟨⟨bytes, hreads⟩, ?_⟩ hloose
      by_contra hdigits
      push Not at hdigits
      obtain ⟨bytes, h⟩ := hreads.spells hdigits
      exact hspells bytes h
  · rintro ⟨⟨bytes, hreads⟩, c, hc, hnone⟩
    refine ⟨fun bytes h => ?_, bytes, hreads, ofHex_eq_ok_iff.2 ⟨bytes, hreads, rfl⟩⟩
    obtain ⟨d, hd⟩ := h.isHexDigit c hc
    exact hnone d hd

/-- Orange is spelled; three signs with a digit each are loose, and every channel is below 0; a
text of four digits is neither. -/
theorem ofHex_of_orange_signs_and_four :
    ofHex "#ff8800".toList = .ok [channel 255, channel 136, channel 0] ∧
      (∃ bytes, Reads "-1-1-1".toList bytes ∧
        ofHex "#-1-1-1".toList = .ok (bytes.map channel)) ∧
      ∃ f, ofHex "0x1234".toList = .error f ∧ f.kind = .value := by
  have horange : Spells (dropMark (trim "#ff8800".toList)) [255, 136, 0] :=
    .six (i := 15) (j := 15) (k := 8) (l := 8) (m := 0) (n := 0)
      (by decide) (by decide) (by decide) (by decide) (by decide) (by decide)
  have hloose : IsLoose (dropMark (trim "#-1-1-1".toList)) := by
    have hbyte : IsByte '-' '1' (-1) := .minus (j := 1) (.inl (by decide))
    refine ⟨⟨[-1, -1, -1], .six hbyte hbyte hbyte⟩, '-', by decide, fun d hd => ?_⟩
    exact not_isDigit_sign (.inl rfl) (.inl hd)
  have hlength : ∀ bytes, ¬ Reads (dropMark (trim "0x1234".toList)) bytes :=
    fun bytes h => absurd h.length (by decide)
  exact ⟨((ofHex_of_spells_or_isLoose _).1 _ horange).1,
    ((ofHex_of_spells_or_isLoose _).2.2 hloose).2,
    (ofHex_of_spells_or_isLoose _).2.1 (fun _ h => hlength _ h.reads)
      fun h => h.1.elim fun _ hreads => hlength _ hreads⟩

end SceneBridge.Colour
