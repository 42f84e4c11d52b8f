import Mathlib.Data.List.Basic
import Mathlib.Data.List.TakeWhile
import SceneBridge.Text.Blank

/-!
# Trimmed texts

A text is trimmed if trimming leaves it as it is, which is a matter of its first and its
last character.
-/

namespace SceneBridge.Text

/-- A text without blanks at its ends. -/
def IsTrimmed (cs : List Char) : Prop :=
  trim cs = cs

instance (cs : List Char) : Decidable (IsTrimmed cs) :=
  inferInstanceAs (Decidable (trim cs = cs))

theorem dropWhile_eq_self {p : Char → Bool} {cs : List Char} :
    cs.dropWhile p = cs ↔ ∀ c ∈ cs.head?, p c = false := by
  cases cs with
  | nil => simp
  | cons c cs =>
    cases hc : p c with
    | false => simp [hc]
    | true =>
      have hle := (List.dropWhile_suffix (l := cs) p).length_le
      simp only [List.dropWhile_cons, hc, if_true, List.head?_cons, Option.mem_def,
        Option.some.injEq, forall_eq']
      constructor
      · intro h
        rw [h, List.length_cons] at hle
        omega
      · intro h
        cases h

theorem trimRightBy_eq_self {p : Char → Bool} {cs : List Char} :
    trimRightBy p cs = cs ↔ ∀ c ∈ cs.getLast?, p c = false := by
  rw [trimRightBy, List.reverse_eq_iff, dropWhile_eq_self, List.head?_reverse]

/-- Trimming on the right goes as far as it can. -/
theorem eq_false_of_getLast?_trimRightBy {p : Char → Bool} {cs : List Char} {c : Char}
    (h : (trimRightBy p cs).getLast? = some c) : p c = false := by
  rw [trimRightBy, List.getLast?_reverse] at h
  have hstop := List.head?_dropWhile_not p cs.reverse
  rwa [h] at hstop

theorem trimBy_eq_self {p : Char → Bool} {cs : List Char} (h : ∀ c ∈ cs, p c = false) :
    trimBy p cs = cs := by
  have hleft : trimLeftBy p cs = cs :=
    dropWhile_eq_self.2 fun c hc => h c (List.mem_of_mem_head? hc)
  rw [trimBy, hleft]
  exact trimRightBy_eq_self.2 fun c hc => h c (List.mem_of_getLast? hc)

/-- Neither the first nor the last character of a trimmed text is a blank. -/
theorem isTrimmed_iff {cs : List Char} :
    IsTrimmed cs ↔ (∀ c ∈ cs.head?, isBlank c = false) ∧ ∀ c ∈ cs.getLast?, isBlank c = false := by
  constructor
  · intro h
    -- Were a blank dropped on the left, the trimmed text would be shorter.
    have hleft : cs.dropWhile isBlank = cs := by
      have hle := (List.dropWhile_suffix (l := (cs.dropWhile isBlank).reverse) isBlank).length_le
      have htrim : ((cs.dropWhile isBlank).reverse.dropWhile isBlank).reverse = cs := h
      have hlen := congrArg List.length htrim
      rw [List.length_reverse] at hlen hle
      exact (List.dropWhile_suffix isBlank).eq_of_length_le (by omega)
    have hright : trimRightBy isBlank cs = cs := by
      have htrim : trimRightBy isBlank (cs.dropWhile isBlank) = cs := h
      rwa [hleft] at htrim
    exact ⟨dropWhile_eq_self.1 hleft, trimRightBy_eq_self.1 hright⟩
  · rintro ⟨hfirst, hlast⟩
    have hleft : cs.dropWhile isBlank = cs := dropWhile_eq_self.2 hfirst
    rw [IsTrimmed, trim, trimBy, trimLeftBy, hleft]
    exact trimRightBy_eq_self.2 hlast

/-! ## What is trimmed away -/

section Append

variable {p : Char → Bool} {a b : List Char}

theorem dropWhile_append_of_all (ha : ∀ c ∈ a, p c = true) (cs : List Char) :
    (a ++ cs).dropWhile p = cs.dropWhile p := by
  have hnone : a.dropWhile p = [] := List.dropWhile_eq_nil_iff.2 ha
  rw [List.dropWhile_append, hnone]
  rfl

theorem trimRightBy_append_of_all (hb : ∀ c ∈ b, p c = true) (cs : List Char) :
    trimRightBy p (cs ++ b) = trimRightBy p cs := by
  have hreverse : ∀ c ∈ b.reverse, p c = true := fun c hc => hb c (List.mem_reverse.1 hc)
  rw [trimRightBy, List.reverse_append, dropWhile_append_of_all hreverse, trimRightBy]

/-- Trimming on the right goes no further than to a character that stays. -/
theorem trimRightBy_append_cons {c : Char} (hc : p c = false) (a b : List Char) :
    trimRightBy p (a ++ c :: b) = a ++ c :: trimRightBy p b := by
  have hstays : (c :: a.reverse).dropWhile p = c :: a.reverse := by simp [hc]
  rw [trimRightBy, trimRightBy, List.reverse_append, List.reverse_cons, List.append_assoc,
    List.singleton_append, List.dropWhile_append, hstays]
  cases hb : b.reverse.dropWhile p with
  | nil => simp
  | cons d ds => simp

/-- Only what is trimmed away gets lost. -/
theorem mem_trimBy {c : Char} {cs : List Char} (hc : p c = false) (hmem : c ∈ cs) :
    c ∈ trimBy p cs := by
  have hleft : c ∈ trimLeftBy p cs := by
    rw [← List.takeWhile_append_dropWhile (p := p) (l := cs)] at hmem
    refine (List.mem_append.1 hmem).resolve_left fun htaken => ?_
    cases hc.symm.trans (List.mem_takeWhile_imp htaken)
  obtain ⟨a, b, hab⟩ := List.append_of_mem hleft
  rw [trimBy, hab, trimRightBy_append_cons hc]
  exact List.mem_append_right a List.mem_cons_self

/-- What trimming on the right takes away satisfies `p`. -/
theorem trimRightBy_append (p : Char → Bool) (cs : List Char) :
    ∃ b, (∀ c ∈ b, p c = true) ∧ trimRightBy p cs ++ b = cs := by
  refine ⟨(cs.reverse.takeWhile p).reverse, fun c hc => ?_, ?_⟩
  · exact List.mem_takeWhile_imp (List.mem_reverse.1 hc)
  · rw [trimRightBy, ← List.reverse_append, List.takeWhile_append_dropWhile, List.reverse_reverse]

theorem trimBy_append_left (ha : ∀ c ∈ a, p c = true) (cs : List Char) :
    trimBy p (a ++ cs) = trimBy p cs := by
  rw [trimBy, trimLeftBy, dropWhile_append_of_all ha, trimBy, trimLeftBy]

theorem trimBy_append_right (hb : ∀ c ∈ b, p c = true) (cs : List Char) :
    trimBy p (cs ++ b) = trimBy p cs := by
  rw [trimBy, trimLeftBy, List.dropWhile_append, trimBy, trimLeftBy]
  cases hcs : cs.dropWhile p with
  | nil =>
    have hnone : b.dropWhile p = [] := List.dropWhile_eq_nil_iff.2 hb
    rw [hnone]
    rfl
  | cons d ds => exact trimRightBy_append_of_all hb (d :: ds)

theorem trim_append_left (ha : ∀ c ∈ a, isBlank c = true) (cs : List Char) :
    trim (a ++ cs) = trim cs :=
  trimBy_append_left ha cs

theorem trim_append_right (hb : ∀ c ∈ b, isBlank c = true) (cs : List Char) :
    trim (cs ++ b) = trim cs :=
  trimBy_append_right hb cs

theorem trim_trimRightBy (cs : List Char) : trim (trimRightBy isBlank cs) = trim cs := by
  obtain ⟨b, hb, hcs⟩ := trimRightBy_append isBlank cs
  have hsame := trim_append_right hb (trimRightBy isBlank cs)
  rw [hcs] at hsame
  exact hsame.symm

/-- What trimming takes away are blanks on both sides. -/
theorem trim_append (cs : List Char) :
    ∃ a b, (∀ c ∈ a, isBlank c = true) ∧ (∀ c ∈ b, isBlank c = true) ∧ a ++ trim cs ++ b = cs := by
  obtain ⟨b, hb, hright⟩ := trimRightBy_append isBlank (cs.dropWhile isBlank)
  refine ⟨cs.takeWhile isBlank, b, fun c hc => List.mem_takeWhile_imp hc, hb, ?_⟩
  have htrim : trim cs = trimRightBy isBlank (cs.dropWhile isBlank) := rfl
  rw [htrim, List.append_assoc, hright, List.takeWhile_append_dropWhile]

theorem mem_of_mem_trim {c : Char} {cs : List Char} (h : c ∈ trim cs) : c ∈ cs := by
  obtain ⟨a, b, -, -, hcs⟩ := trim_append cs
  rw [← hcs]
  exact List.mem_append_left b (List.mem_append_right a h)

theorem isTrimmed_trim (cs : List Char) : IsTrimmed (trim cs) := by
  obtain ⟨a, b, ha, hb, hcs⟩ := trim_append cs
  have hsame := trim_append_right hb (a ++ trim cs)
  rw [hcs, trim_append_left ha] at hsame
  exact hsame.symm

end Append

/-- A blank in front makes no difference to what is left by trimming. -/
theorem trim_cons_of_isBlank {c : Char} (hc : isBlank c = true) (cs : List Char) :
    trim (c :: cs) = trim cs := by
  simp [trim, trimBy, trimLeftBy, hc]

namespace IsTrimmed

variable {a b : List Char}

/-- Whatever stands between two trimmed texts, the whole is trimmed. -/
theorem surround (ha : IsTrimmed a) (hb : IsTrimmed b) (hane : a ≠ []) (hbne : b ≠ [])
    (middle : List Char) : IsTrimmed (a ++ middle ++ b) := by
  rw [isTrimmed_iff] at ha hb ⊢
  refine ⟨fun c hc => ha.1 c ?_, fun c hc => hb.2 c ?_⟩
  · rwa [List.append_assoc, List.head?_append_of_ne_nil _ hane] at hc
  · rwa [List.getLast?_append_of_ne_nil _ hbne] at hc

/-- Trimmed texts that are joined are trimmed. -/
theorem intercalate (sep : List Char) {ws : List (List Char)} (hne : ws ≠ [])
    (hws : ∀ w ∈ ws, IsTrimmed w ∧ w ≠ []) :
    IsTrimmed (sep.intercalate ws) ∧ sep.intercalate ws ≠ [] := by
  induction ws with
  | nil => exact absurd rfl hne
  | cons w ws ih =>
    obtain ⟨hw, hwne⟩ := hws w List.mem_cons_self
    cases ws with
    | nil => simpa using And.intro hw hwne
    | cons v vs =>
      obtain ⟨hrest, hrestne⟩ :=
        ih (List.cons_ne_nil v vs) fun u hu => hws u (List.mem_cons_of_mem _ hu)
      rw [List.intercalate_cons_cons]
      exact ⟨hw.surround hrest hwne hrestne sep, by simp [hwne]⟩

end IsTrimmed

end SceneBridge.Text
