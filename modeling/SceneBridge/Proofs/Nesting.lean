import SceneBridge.Proofs.Scans

/-!
# Nesting

How deep in brackets and quotes a position of a text stands, counted from the left: the quotes in
front of it are paired off, and the brackets outside of them opened and closed. The scan agrees with
the counts, so that a text can be split exactly if its quotes are paired and the brackets outside of
them match.
-/

namespace SceneBridge.Brackets

open Text

variable {s t : Scan} {c o k : Char} {ks ls v w cs text : List Char} {i : Nat}

/-! ## Brackets alone -/

/-- Is the character a bracket? -/
def isBracket (c : Char) : Bool :=
  (closer? c).isSome || isCloser c

/-- The closing brackets that are due behind one more character, if those in `ks` were before. -/
def nestStep (ks : List Char) (c : Char) : Option (List Char) :=
  match closer? c with
  | some k => some (k :: ks)
  | none =>
    if isCloser c then
      match ks with
      | k :: ls => if k == c then some ls else none
      | [] => none
    else some ks

/-- The closing brackets that are due behind a text, quotes being characters like any other. -/
def nest : List Char → List Char → Option (List Char)
  | ks, [] => some ks
  | ks, c :: cs => (nestStep ks c).bind (nest · cs)

theorem nestStep_opener (ho : closer? o = some k) (ks : List Char) :
    nestStep ks o = some (k :: ks) := by
  simp [nestStep, ho]

theorem nestStep_closer (ho : closer? o = some k) (ks : List Char) :
    nestStep (k :: ks) k = some ks := by
  simp [nestStep, closer?_closer ho, isCloser_closer ho]

theorem nestStep_of_not_isBracket (hc : isBracket c = false) (ks : List Char) :
    nestStep ks c = some ks := by
  obtain ⟨ho, hk⟩ := Bool.or_eq_false_iff.1 hc
  simp [nestStep, Option.not_isSome_iff_eq_none.1 (Bool.eq_false_iff.1 ho), hk]

theorem nest_singleton (ks : List Char) (c : Char) : nest ks [c] = nestStep ks c := by
  rw [nest]
  cases nestStep ks c <;> rfl

theorem nest_append (ks v w : List Char) : nest ks (v ++ w) = (nest ks v).bind (nest · w) := by
  induction v generalizing ks with
  | nil => rfl
  | cons c cs ih =>
    rw [List.cons_append, nest, nest, Option.bind_assoc]
    exact Option.bind_congr fun ls _ => ih ls

/-- Only brackets count. -/
theorem nest_filter (ks w : List Char) : nest ks (w.filter isBracket) = nest ks w := by
  induction w generalizing ks with
  | nil => rfl
  | cons c cs ih =>
    rw [nest]
    cases hc : isBracket c with
    | true =>
      rw [List.filter_cons_of_pos hc, nest]
      exact Option.bind_congr fun ls _ => ih ls
    | false =>
      rw [List.filter_cons_of_neg (by simp [hc]), nestStep_of_not_isBracket hc]
      exact ih ks

/-- What one character makes of what is due. -/
inductive NestsTo (ks : List Char) (c : Char) : List Char → Prop
  | opener {k : Char} (ho : closer? c = some k) : NestsTo ks c (k :: ks)
  | closer {ls : List Char} (ho : closer? c = none) (hc : isCloser c = true) (hks : ks = c :: ls) :
      NestsTo ks c ls
  | other (hc : isBracket c = false) : NestsTo ks c ks

theorem nestsTo_of_nestStep (h : nestStep ks c = some ls) : NestsTo ks c ls := by
  unfold nestStep at h
  split at h
  · cases h
    exact .opener ‹_›
  · rename_i ho
    split at h
    · rename_i hc
      split at h
      · split at h
        · rename_i heq
          cases h
          exact .closer ho hc (congrArg (· :: _) (eq_of_beq heq))
        · cases h
      · cases h
    · rename_i hc
      cases h
      exact .other (by simp [isBracket, ho, hc])

theorem isCloser_of_closer? (ho : closer? o = some k) : isCloser o = false := by
  have hpair := closer?_eq_some ho
  simp only [List.mem_cons, Prod.mk.injEq, List.not_mem_nil, or_false] at hpair
  rcases hpair with ⟨rfl, -⟩ | ⟨rfl, -⟩ | ⟨rfl, -⟩ | ⟨rfl, -⟩ <;> rfl

/-- What is due behind a text is what was opened and not closed. -/
theorem length_of_nest (h : nest ks w = some ls) :
    ls.length + w.countP isCloser = ks.length + w.countP (closer? · |>.isSome) := by
  induction w generalizing ks with
  | nil =>
    cases h
    rfl
  | cons c cs ih =>
    obtain ⟨ms, hstep, hrest⟩ := Option.bind_eq_some_iff.1 h
    have hcount := ih hrest
    rw [List.countP_cons, List.countP_cons]
    cases nestsTo_of_nestStep hstep with
    | opener ho =>
      simp only [List.length_cons, isCloser_of_closer? ho, ho] at hcount ⊢
      simp
      omega
    | closer ho hc hks =>
      simp only [hks, List.length_cons, hc, ho] at hcount ⊢
      simp
      omega
    | other hc =>
      obtain ⟨ho, hc⟩ := Bool.or_eq_false_iff.1 hc
      simp only [ho, hc] at hcount ⊢
      simpa using hcount

/-- The brackets of the text match, quoted or not. -/
def Matched (w : List Char) : Prop :=
  Balanced (fun _ => True) (w.filter isBracket)

theorem Balanced.nest_eq {p : Char → Prop} (h : Balanced p w) (ks : List Char) :
    nest ks w = some ks := by
  induction h generalizing ks with
  | nil => rfl
  | @plain _ c cs hc _ _ ih =>
    have hbracket : isBracket c = false := by simp [isBracket, hc.notOpener, hc.notCloser]
    rw [nest, nestStep_of_not_isBracket hbracket]
    exact ih ks
  | @wrap _ o k inner cs ho _ _ ihinner ih =>
    rw [nest, nestStep_opener ho, Option.bind_some, nest_append, ihinner, Option.bind_some, nest,
      nestStep_closer ho]
    exact ih ks

theorem closes_of_nest (h : nest ks w = some []) :
    Closes (fun _ => True) ks (w.filter isBracket) := by
  induction w generalizing ks with
  | nil =>
    cases h
    exact .nil .nil
  | cons c cs ih =>
    obtain ⟨ls, hstep, hrest⟩ := Option.bind_eq_some_iff.1 h
    have hcs := ih hrest
    cases nestsTo_of_nestStep hstep with
    | opener ho =>
      rw [List.filter_cons_of_pos (by simp [isBracket, ho])]
      generalize cs.filter isBracket = brackets at hcs ⊢
      cases hcs with
      | cons hv hw => exact .wrap ho hv hw
    | closer _ hc hks =>
      rw [List.filter_cons_of_pos (by simp [isBracket, hc]), hks]
      exact .cons (v := []) .nil hcs
    | other hc =>
      rwa [List.filter_cons_of_neg (by simp [hc])]

theorem matched_iff : Matched w ↔ nest [] w = some [] := by
  constructor
  · intro h
    rw [← nest_filter]
    exact Balanced.nest_eq h []
  · intro h
    cases closes_of_nest h with
    | nil hw => exact hw

instance (w : List Char) : Decidable (Matched w) :=
  decidable_of_iff _ matched_iff.symm

/-! ## Quotes and depth -/

/-- Does a double quote at position `i` open or close? One after a backslash does not. -/
def isQuoteAt (text : List Char) (i : Nat) : Bool :=
  text[i]? == some '"' && (i == 0 || text[i - 1]? != some '\\')

/-- Is position `i` between double quotes? -/
def quotedAt (text : List Char) : Nat → Bool
  | 0 => false
  | i + 1 => quotedAt text i != isQuoteAt text i

/-- The brackets outside of quotes that stand in front of position `i`. -/
def bracketsAt (text : List Char) : Nat → List Char
  | 0 => []
  | i + 1 => bracketsAt text i ++ if quotedAt text i then [] else text[i]?.toList.filter isBracket

/-- Is position `i` outside of brackets and quotes? As many brackets are closed in front of it as
are opened. -/
def outsideAt (text : List Char) (i : Nat) : Bool :=
  !quotedAt text i &&
    (bracketsAt text i).countP isCloser == (bracketsAt text i).countP (closer? · |>.isSome)

/-! ## Agreement with the scan -/

theorem Scan.step_eq (s : Scan) (c : Char) :
    s.step c =
      if s.isQuote c then some ⟨s.awaited, !s.quoted, some c⟩
      else if s.quoted then some ⟨s.awaited, true, some c⟩
      else (nestStep s.awaited c).map (⟨·, false, some c⟩) := by
  rw [Scan.step, nestStep.eq_def]
  congr 2
  cases closer? c with
  | some k => rfl
  | none =>
    cases isCloser c with
    | false => rfl
    | true =>
      cases s.awaited with
      | nil => rfl
      | cons k ks => cases h : k == c <;> simp [h]

theorem getLast?_take (hi : i < text.length) :
    (text.take i).getLast? = if i = 0 then none else text[i - 1]? := by
  rw [List.getLast?_take]
  split
  · rfl
  · rw [List.getElem?_eq_getElem (by omega), Option.some_or]

theorem getElem?_of_isQuoteAt (h : isQuoteAt text i = true) : text[i]? = some '"' :=
  eq_of_beq (Bool.and_eq_true_iff.1 h).1

/-- A quote counts for the scan exactly if it counts at its position. -/
theorem isQuote_eq_isQuoteAt (hc : text[i]? = some c) (ks : List Char) (q : Bool) :
    Scan.isQuote ⟨ks, q, (text.take i).getLast?⟩ c = isQuoteAt text i := by
  obtain ⟨hi, -⟩ := List.getElem?_eq_some_iff.1 hc
  rw [Scan.isQuote, isQuoteAt, hc, getLast?_take hi]
  cases i <;> simp

/-- The scan of what stands in front of a position. -/
theorem scan_take (text : List Char) (i : Nat) :
    Scan.start.over (fun _ => false) (text.take i) =
      (nest [] (bracketsAt text i)).map (⟨·, quotedAt text i, (text.take i).getLast?⟩) := by
  induction i with
  | zero => rfl
  | succ i ih =>
    rw [List.take_add_one, Scan.over_append, ih, bracketsAt, nest_append, quotedAt]
    cases hc : text[i]? with
    | none =>
      have hquote : isQuoteAt text i = false := by simp [isQuoteAt, hc]
      cases nest [] (bracketsAt text i) <;> simp [hquote, Scan.over, nest]
    | some c =>
      cases nest [] (bracketsAt text i) with
      | none => rfl
      | some ks =>
        have hquote := isQuote_eq_isQuoteAt hc ks (quotedAt text i)
        have hlast : (text.take i ++ [c]).getLast? = some c := List.getLast?_concat
        have hover : Scan.over (fun _ => false) ⟨ks, quotedAt text i, (text.take i).getLast?⟩ [c] =
            Scan.step ⟨ks, quotedAt text i, (text.take i).getLast?⟩ c := by
          simp [Scan.over, Scan.separates]
        rw [Option.toList_some, Option.map_some, Option.bind_some, Option.bind_some, hover, hlast,
          Scan.step_eq, hquote]
        -- A quote that counts is no bracket, and inside of quotes no bracket counts.
        cases hdelimits : isQuoteAt text i with
        | true =>
          obtain rfl := Option.some.inj (hc.symm.trans (getElem?_of_isQuoteAt hdelimits))
          cases quotedAt text i <;> rfl
        | false =>
          cases quotedAt text i with
          | true => rfl
          | false =>
            have hbracket : nest ks ([c].filter isBracket) = nestStep ks c := by
              rw [nest_filter, nest_singleton]
            simp only [Bool.false_eq_true, if_false, hbracket]
            rfl

/-- The scan is outside of brackets and quotes where the counts are. -/
theorem atTop_eq_outsideAt (h : Scan.start.over (fun _ => false) (text.take i) = some s) :
    s.atTop = outsideAt text i := by
  rw [scan_take] at h
  obtain ⟨ks, hks, rfl⟩ := Option.map_eq_some_iff.1 h
  have hcount := length_of_nest hks
  have hempty : ks.isEmpty = ((bracketsAt text i).countP isCloser ==
      (bracketsAt text i).countP (closer? · |>.isSome)) := by
    rw [Bool.eq_iff_iff, List.isEmpty_iff_length_eq_zero, beq_iff_eq]
    rw [List.length_nil] at hcount
    omega
  rw [Scan.atTop, outsideAt, hempty, Bool.and_comm]

/-- A text whose quotes are paired and whose brackets outside of quotes match. -/
structure IsNested (text : List Char) : Prop where
  quotes : quotedAt text text.length = false
  brackets : Matched (bracketsAt text text.length)

instance (text : List Char) : Decidable (IsNested text) :=
  decidable_of_iff (quotedAt text text.length = false ∧ Matched (bracketsAt text text.length))
    ⟨fun ⟨hq, hb⟩ => ⟨hq, hb⟩, fun ⟨hq, hb⟩ => ⟨hq, hb⟩⟩

/-- The scan of a text leaves nothing open exactly if its quotes are paired and the brackets outside
of them match. -/
theorem isClosed_iff_isNested : IsClosed text ↔ IsNested text := by
  have hscan := scan_take text text.length
  rw [List.take_length] at hscan
  have hpast : Scan.start.past text = ⟨[], false, text.getLast?⟩ := by
    simp [Scan.past, Scan.start]
  rw [IsClosed, IsPart.eq_1, hscan, hpast]
  simp only [Option.map_eq_some_iff, Scan.mk.injEq]
  constructor
  · rintro ⟨ks, hks, rfl, hq, -⟩
    exact ⟨hq, matched_iff.2 hks⟩
  · rintro ⟨hq, hmatched⟩
    exact ⟨[], matched_iff.1 hmatched, rfl, hq, trivial⟩

end SceneBridge.Brackets
