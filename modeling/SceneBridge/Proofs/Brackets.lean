import Mathlib.Data.List.Basic
import SceneBridge.TypeExpr.Brackets

/-!
# Balanced texts

Texts without double quotes whose brackets match. While a bracket is open, the search
for its end passes over such a text without a trace. The scan that splits a text takes
the same steps, character by character.
-/

namespace SceneBridge.Brackets

open Text

/-! ## Characters -/

/-- A character that neither scanner takes notice of. -/
structure IsPlain (c : Char) : Prop where
  notOpener : closer? c = none
  notCloser : isCloser c = false
  notQuote : c ≠ '"'

instance (c : Char) : Decidable (IsPlain c) :=
  decidable_of_iff (closer? c = none ∧ isCloser c = false ∧ c ≠ '"')
    ⟨fun ⟨ho, hc, hq⟩ => ⟨ho, hc, hq⟩, fun ⟨ho, hc, hq⟩ => ⟨ho, hc, hq⟩⟩

/-- The characters that a scanner takes notice of. -/
def marks : List Char :=
  ['<', '>', '\x7b', '\x7d', '[', ']', '(', ')', '"']

/-- What holds of no mark holds of plain characters only. -/
theorem isPlain_of_holds {q : Char → Bool} (hmarks : marks.any q = false) {c : Char}
    (hc : q c = true) : IsPlain c := by
  have hne (d : Char) (hd : d ∈ marks) : c ≠ d := by
    rintro rfl
    exact List.any_eq_false.1 hmarks c hd hc
  refine ⟨?_, ?_, hne '"' (by decide)⟩
  · unfold closer?
    split
    · exact absurd rfl (hne '<' (by decide))
    · exact absurd rfl (hne '\x7b' (by decide))
    · exact absurd rfl (hne '[' (by decide))
    · exact absurd rfl (hne '(' (by decide))
    · rfl
  · simp [isCloser, hne '>' (by decide), hne '\x7d' (by decide), hne ']' (by decide),
      hne ')' (by decide)]

theorem isPlain_of_notMem {c : Char} (h : c ∉ marks) : IsPlain c :=
  isPlain_of_holds (q := fun d => !marks.contains d) (by decide) (by simpa using h)

/-- The four pairs of brackets. -/
theorem closer?_eq_some {o k : Char} (h : closer? o = some k) :
    (o, k) ∈ [('<', '>'), ('\x7b', '\x7d'), ('[', ']'), ('(', ')')] := by
  unfold closer? at h
  split at h <;> simp_all [eq_comm]

theorem ne_quote_of_closer? {o k : Char} (h : closer? o = some k) : o ≠ '"' := by
  rintro rfl
  cases h

/-- A closing bracket opens nothing. -/
theorem closer?_closer {o k : Char} (h : closer? o = some k) : closer? k = none := by
  have := closer?_eq_some h
  simp only [List.mem_cons, Prod.mk.injEq, List.not_mem_nil, or_false] at this
  rcases this with ⟨-, rfl⟩ | ⟨-, rfl⟩ | ⟨-, rfl⟩ | ⟨-, rfl⟩ <;> rfl

theorem isCloser_closer {o k : Char} (h : closer? o = some k) : isCloser k = true := by
  have := closer?_eq_some h
  simp only [List.mem_cons, Prod.mk.injEq, List.not_mem_nil, or_false] at this
  rcases this with ⟨-, rfl⟩ | ⟨-, rfl⟩ | ⟨-, rfl⟩ | ⟨-, rfl⟩ <;> rfl

theorem closer_ne_quote {o k : Char} (h : closer? o = some k) : k ≠ '"' := by
  have := isCloser_closer h
  rintro rfl
  cases this

/-! ## Balanced texts -/

/-- A text whose brackets match and that has no double quote. The characters outside
of brackets satisfy `p`. -/
inductive Balanced : (Char → Prop) → List Char → Prop
  | nil {p : Char → Prop} : Balanced p []
  | plain {p : Char → Prop} {c : Char} {cs : List Char} (hc : IsPlain c) (hp : p c)
      (hcs : Balanced p cs) : Balanced p (c :: cs)
  | wrap {p : Char → Prop} {o k : Char} {inner cs : List Char} (ho : closer? o = some k)
      (hinner : Balanced (fun _ => True) inner) (hcs : Balanced p cs) :
      Balanced p (o :: (inner ++ k :: cs))

namespace Balanced

variable {p q : Char → Prop} {a b : List Char}

theorem mono (hpq : ∀ c, p c → q c) (h : Balanced p a) : Balanced q a := by
  induction h with
  | nil => exact .nil
  | plain hc hp _ ih => exact .plain hc (hpq _ hp) (ih hpq)
  | wrap ho hinner _ _ ih => exact .wrap ho hinner (ih hpq)

theorem append (ha : Balanced p a) (hb : Balanced p b) : Balanced p (a ++ b) := by
  induction ha with
  | nil => exact hb
  | plain hc hp _ ih => exact .plain hc hp (ih hb)
  | wrap ho hinner _ _ ih =>
    simpa using Balanced.wrap ho hinner (ih hb)

theorem of_plain (h : ∀ c ∈ a, IsPlain c ∧ p c) : Balanced p a := by
  induction a with
  | nil => exact .nil
  | cons c cs ih =>
    have hc := h c List.mem_cons_self
    exact .plain hc.1 hc.2 (ih fun d hd => h d (List.mem_cons_of_mem _ hd))

/-- Brackets around a balanced text hide all of its characters. -/
theorem enclose {o k : Char} (ho : closer? o = some k) (h : Balanced p a) :
    Balanced q (o :: (a ++ [k])) :=
  .wrap ho (h.mono fun _ _ => trivial) .nil

theorem intercalate {sep : List Char} {ws : List (List Char)} (hsep : Balanced p sep)
    (hws : ∀ w ∈ ws, Balanced p w) : Balanced p (sep.intercalate ws) := by
  induction ws with
  | nil => exact .nil
  | cons w ws ih =>
    have hw := hws w List.mem_cons_self
    have hrest := ih fun v hv => hws v (List.mem_cons_of_mem _ hv)
    cases ws with
    | nil => simpa using hw
    | cons v vs =>
      rw [List.intercalate_cons_cons]
      exact (hw.append hsep).append hrest

end Balanced

/-! ## Passing over a text -/

variable {p : Char → Prop} {w rest : List Char}

@[simp]
theorem closeFrom_opener {o k : Char} (ho : closer? o = some k) (ks : List Char) (i : Nat)
    (cs : List Char) : closeFrom ks i (o :: cs) = closeFrom (k :: ks) (i + 1) cs := by
  simp [closeFrom, ho]

@[simp]
theorem closeFrom_closer {o k : Char} (ho : closer? o = some k) (ks : List Char) (i : Nat)
    (cs : List Char) :
    closeFrom (k :: ks) i (k :: cs) = if ks.isEmpty then some i else closeFrom ks (i + 1) cs := by
  simp [closeFrom, closer?_closer ho, isCloser_closer ho]

/-- While a bracket is open, the search for its end goes on behind the text. -/
def IsPassed (w : List Char) : Prop :=
  ∀ k ks i rest, closeFrom (k :: ks) i (w ++ rest) = closeFrom (k :: ks) (i + w.length) rest

namespace IsPassed

variable {a b : List Char}

theorem nil : IsPassed [] :=
  fun _ _ _ _ => rfl

theorem append (ha : IsPassed a) (hb : IsPassed b) : IsPassed (a ++ b) := by
  intro k ks i rest
  rw [List.append_assoc, ha, hb, List.length_append, Nat.add_assoc]

/-- Quotes are characters like any other here. -/
theorem of_noBracket (h : ∀ c ∈ a, closer? c = none ∧ isCloser c = false) : IsPassed a := by
  induction a with
  | nil => exact nil
  | cons c cs ih =>
    obtain ⟨hopener, hcloser⟩ := h c List.mem_cons_self
    have hrest := ih fun d hd => h d (List.mem_cons_of_mem _ hd)
    intro k ks i rest
    have hstep : closeFrom (k :: ks) i (c :: (cs ++ rest)) =
        closeFrom (k :: ks) (i + 1) (cs ++ rest) := by
      simp [closeFrom, hopener, hcloser]
    rw [List.cons_append, hstep, hrest, List.length_cons, Nat.add_assoc, Nat.add_comm 1]

theorem enclose {o k : Char} (ho : closer? o = some k) (ha : IsPassed a) :
    IsPassed (o :: (a ++ [k])) := by
  intro l ls i rest
  rw [List.cons_append, closeFrom_opener ho, List.append_assoc, ha, List.singleton_append,
    closeFrom_closer ho, if_neg (by simp)]
  congr 1
  simp only [List.length_cons, List.length_append, List.length_nil]
  omega

theorem intercalate {sep : List Char} {ws : List (List Char)} (hsep : IsPassed sep)
    (hws : ∀ w ∈ ws, IsPassed w) : IsPassed (sep.intercalate ws) := by
  induction ws with
  | nil => exact nil
  | cons w ws ih =>
    have hw := hws w List.mem_cons_self
    have hrest := ih fun v hv => hws v (List.mem_cons_of_mem _ hv)
    cases ws with
    | nil => simpa using hw
    | cons v vs =>
      rw [List.intercalate_cons_cons]
      exact (hw.append hsep).append hrest

end IsPassed

theorem Balanced.isPassed (hw : Balanced p w) : IsPassed w := by
  -- The search stands at the same bracket before and behind each piece of the text.
  induction hw with
  | nil => exact .nil
  | @plain _ c cs hc _ _ ih =>
    have hfirst : IsPassed [c] :=
      .of_noBracket (List.forall_mem_singleton.2 ⟨hc.notOpener, hc.notCloser⟩)
    exact hfirst.append ih
  | @wrap _ o k inner cs ho _ _ ihinner ih =>
    have htext : o :: (inner ++ k :: cs) = o :: (inner ++ [k]) ++ cs := by simp
    rw [htext]
    exact (ihinner.enclose ho).append ih

/-- A bracket is closed behind the text that follows it. -/
theorem closeFrom_wrap {o k : Char} (ho : closer? o = some k) (hw : IsPassed w) (i : Nat) :
    closeFrom [] i (o :: (w ++ k :: rest)) = some (i + 1 + w.length) := by
  rw [closeFrom_opener ho, hw, closeFrom_closer ho]
  rfl

/-- A bracket that opens behind some text is closed by the last character, if the search passes over
all that stands between them. -/
theorem wraps_enclosed {o k : Char} (ho : closer? o = some k) (hw : IsPassed w)
    (before : List Char) : wraps (before ++ o :: (w ++ [k])) before.length = true := by
  have hclose : matchingClose? (before ++ o :: (w ++ [k])) before.length =
      some (before.length + 1 + w.length) := by
    rw [matchingClose?, List.drop_left, closeFrom_wrap ho hw]
  simp only [wraps, hclose, List.length_append, List.length_cons, List.length_nil]
  rw [beq_iff_eq]
  congr 1
  omega

/-- The first bracket of a balanced text is closed within that text. -/
theorem closeFrom_lt {o k : Char} {before more : List Char} (ho : closer? o = some k)
    (hbefore : ∀ c ∈ before, IsPlain c) (hw : Balanced p w) (hlt : before.length < w.length)
    (heq : w ++ rest = before ++ o :: more) (i : Nat) :
    ∃ j < w.length, closeFrom [] (i + before.length) (o :: more) = some (i + j) := by
  induction hw generalizing before i with
  | nil => simp at hlt
  | @plain _ c cs hc _ _ ih =>
    -- The bracket is no plain character, so it stands further on.
    cases before with
    | nil =>
      obtain ⟨rfl, -⟩ := List.cons_eq_cons.1 heq
      rw [hc.notOpener] at ho
      cases ho
    | cons b before =>
      have htail : cs ++ rest = before ++ o :: more := (List.cons_eq_cons.1 heq).2
      obtain ⟨j, hj, hclose⟩ := ih (fun c hc => hbefore c (List.mem_cons_of_mem _ hc))
        (by simpa using hlt) htail (i + 1)
      refine ⟨j + 1, by simpa using hj, ?_⟩
      rw [List.length_cons, Nat.add_comm before.length, ← Nat.add_assoc, hclose, Nat.add_right_comm,
        Nat.add_assoc]
  | @wrap _ o' k' inner cs ho' hinner _ _ _ =>
    -- This piece is the first one with a bracket, so the bracket is the one that opens it.
    cases before with
    | nil =>
      simp only [List.nil_append, List.cons_append, List.append_assoc, List.cons.injEq] at heq
      obtain ⟨rfl, rfl⟩ := heq
      refine ⟨1 + inner.length, ?_, ?_⟩
      · simp only [List.length_cons, List.length_append]
        omega
      · rw [closeFrom_wrap ho' hinner.isPassed, Nat.add_assoc, List.length_nil, Nat.add_zero]
    | cons b before =>
      obtain ⟨rfl, -⟩ := List.cons_eq_cons.1 heq
      rw [(hbefore o' List.mem_cons_self).notOpener] at ho'
      cases ho'

/-! ## Steps of the scan -/

/-- The scan behind a text that changes neither brackets nor quotes. -/
def Scan.past (s : Scan) (w : List Char) : Scan :=
  { s with previous := w.getLast?.or s.previous }

@[simp]
theorem Scan.past_awaited (s : Scan) (w : List Char) : (s.past w).awaited = s.awaited := rfl

@[simp]
theorem Scan.past_quoted (s : Scan) (w : List Char) : (s.past w).quoted = s.quoted := rfl

theorem Scan.past_cons (s : Scan) (c : Char) (w : List Char) :
    Scan.past ⟨s.awaited, s.quoted, some c⟩ w = s.past (c :: w) := by
  simp only [Scan.past, List.getLast?_cons]
  cases w.getLast? <;> rfl

theorem Scan.past_append (s : Scan) (v w : List Char) : (s.past v).past w = s.past (v ++ w) := by
  simp [Scan.past, List.getLast?_append, Option.or_assoc]

/-- Puts a text in front of the first of some parts. -/
def prepend (w : List Char) (parts : List (List Char)) : List (List Char) :=
  w.foldr consFirst parts

@[simp]
theorem prepend_cons (w part : List Char) (parts : List (List Char)) :
    prepend w (part :: parts) = (w ++ part) :: parts := by
  induction w with
  | nil => rfl
  | cons c w ih =>
    rw [prepend, List.foldr_cons, ← prepend, ih]
    rfl

theorem map_map {α β γ : Type} (f : β → γ) (g : α → β) (x : Except Malformed α) :
    (x.map g).map f = x.map (f ∘ g) := by
  cases x <;> rfl

theorem Scan.step_plain {s : Scan} {c : Char} (hs : s.quoted = false) (hc : IsPlain c) :
    s.step c = some ⟨s.awaited, s.quoted, some c⟩ := by
  simp [Scan.step, Scan.isQuote, hs, hc.notOpener, hc.notCloser, hc.notQuote]

theorem Scan.step_opener {s : Scan} {o k : Char} (hs : s.quoted = false)
    (ho : closer? o = some k) : s.step o = some ⟨k :: s.awaited, false, some o⟩ := by
  simp [Scan.step, Scan.isQuote, hs, ho, ne_quote_of_closer? ho]

theorem Scan.step_closer {o k : Char} (ho : closer? o = some k) (ks : List Char)
    (previous : Option Char) :
    Scan.step ⟨k :: ks, false, previous⟩ k = some ⟨ks, false, some k⟩ := by
  simp [Scan.step, Scan.isQuote, closer_ne_quote ho, closer?_closer ho, isCloser_closer ho]

variable {text : List Char} {sep : Char → Bool} {budget : Option Nat}

theorem splitFrom_keep {s t : Scan} {c : Char} (ht : s.step c = some t)
    (hsep : s.separates sep c = false) (i : Nat) (cs : List Char) :
    splitFrom text sep budget s i (c :: cs) =
      (splitFrom text sep budget t (i + 1) cs).map (prepend [c]) := by
  simp only [splitFrom, ht, hsep, Bool.false_and, Bool.false_eq_true, if_false]
  rfl

/-- A character that separates and that neither scanner takes notice of ends a part. -/
theorem splitFrom_separator {s : Scan} {c : Char} (hc : IsPlain c) (hsep : sep c = true)
    (hq : s.quoted = false) (htop : s.awaited = []) (i : Nat) (cs : List Char) :
    splitFrom text sep none s i (c :: cs) =
      (splitFrom text sep none ⟨[], false, some c⟩ (i + 1) cs).map ([] :: ·) := by
  have hs : s.separates sep c = true := by
    simp [Scan.separates, Scan.atTop, Scan.isQuote, htop, hq, hc.notQuote, hc.notOpener,
      hc.notCloser, hsep]
  simp [splitFrom, Scan.step_plain hq hc, hs, hq, htop]

end SceneBridge.Brackets
