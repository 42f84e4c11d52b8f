import SceneBridge.Proofs.Nesting
import SceneBridge.Proofs.TypeReadings

/-!
# Matching brackets

The scan that splits a text keeps quotes apart, the search for the end of a bracket does not. In a
text that can be split, the scan finds an end for every bracket outside of quotes, and the search
comes to the same end exactly if the brackets in between match, those between quotes included. Where
no bracket stands between quotes, it always does.
-/

namespace SceneBridge.Brackets

open Text

variable {c o k : Char} {ks ls ms S v w cs text rest : List Char} {i j m : Nat}

/-! ## The search as nesting -/

theorem nestStep_append (h : nestStep ks c = some ls) (ms : List Char) :
    nestStep (ks ++ ms) c = some (ls ++ ms) := by
  cases nestsTo_of_nestStep h with
  | opener ho => exact nestStep_opener ho (ks ++ ms)
  | closer ho hc hks => simp [nestStep, ho, hc, hks]
  | other hc => exact nestStep_of_not_isBracket hc (ks ++ ms)

/-- While a bracket is due, the search goes on until nothing is. -/
theorem closeFrom_cons (hks : ks ≠ []) (i : Nat) (cs : List Char) :
    closeFrom ks i (c :: cs) =
      (nestStep ks c).bind fun ls => if ls.isEmpty then some i else closeFrom ls (i + 1) cs := by
  rw [closeFrom.eq_def, nestStep.eq_def]
  dsimp only
  cases closer? c with
  | some k => rfl
  | none =>
    cases isCloser c with
    | false => simp [hks]
    | true =>
      cases ks with
      | nil => rfl
      | cons k ks => cases h : k == c <;> simp [h]

theorem closeFrom_of_nest (h : nest ms w = some ls) (hks : ks ≠ []) (i : Nat) (rest : List Char) :
    closeFrom (ms ++ ks) i (w ++ rest) = closeFrom (ls ++ ks) (i + w.length) rest := by
  induction w generalizing ms i with
  | nil =>
    cases h
    rfl
  | cons c cs ih =>
    obtain ⟨ms', hstep, hrest⟩ := Option.bind_eq_some_iff.1 h
    have hne : ms' ++ ks ≠ [] := List.append_ne_nil_of_right_ne_nil ms' hks
    rw [List.cons_append, closeFrom_cons (List.append_ne_nil_of_right_ne_nil ms hks),
      nestStep_append hstep, Option.bind_some, if_neg (by simpa using hne), ih hrest,
      List.length_cons, Nat.add_assoc, Nat.add_comm 1]

/-- The search passes over a text whose brackets match. -/
theorem Matched.isPassed (h : Matched w) : IsPassed w := by
  intro k ks i rest
  exact closeFrom_of_nest (matched_iff.1 h) (List.cons_ne_nil k ks) i rest

/-- What the search comes to stands where it looks or further on. -/
theorem le_of_closeFrom (h : closeFrom (ks ++ [k]) i cs = some j) : i ≤ j := by
  obtain ⟨d, rfl, -⟩ := TypeExpr.getElem?_of_closeFrom h
  exact Nat.le_add_right i d

/-- A step that leaves what is due further out has no part in it. -/
theorem nestStep_of_append (h : nestStep (ms ++ k :: ks) c = some ls)
    (hls : ks.length < ls.length) :
    ∃ ms', ls = ms' ++ k :: ks ∧ nestStep ms c = some ms' := by
  cases nestsTo_of_nestStep h with
  | opener ho => exact ⟨_ :: ms, rfl, nestStep_opener ho ms⟩
  | closer ho hc hks =>
    cases ms with
    | nil =>
      obtain ⟨-, rfl⟩ := List.cons_eq_cons.1 hks
      exact absurd hls (Nat.lt_irrefl _)
    | cons l ms =>
      obtain ⟨rfl, rfl⟩ := List.cons_eq_cons.1 hks
      exact ⟨ms, rfl, by simp [nestStep, ho, hc]⟩
  | other hc => exact ⟨ms, rfl, nestStep_of_not_isBracket hc ms⟩

theorem eq_nil_of_nestStep_append (h : nestStep (ms ++ [k]) c = some []) : ms = [] := by
  generalize hks : ms ++ [k] = ks at h
  cases nestsTo_of_nestStep h with
  | closer _ _ hone =>
    rw [hone, ← List.nil_append [c]] at hks
    exact (List.append_inj' hks rfl).1
  | other => simp at hks

/-- If the search comes to what stands behind a text, the brackets of the text match. -/
theorem nest_of_closeFrom (h : closeFrom (ms ++ [k]) i (w ++ k :: rest) = some (i + w.length)) :
    nest ms w = some [] := by
  induction w generalizing ms i with
  | nil =>
    rw [List.nil_append, closeFrom_cons (by simp)] at h
    obtain ⟨ls, hstep, hrest⟩ := Option.bind_eq_some_iff.1 h
    split at hrest
    · rename_i hls
      obtain rfl := List.isEmpty_iff.1 hls
      rw [eq_nil_of_nestStep_append hstep, nest]
    · rename_i hls
      obtain ⟨ms', rfl, -⟩ :=
        nestStep_of_append hstep (List.length_pos_iff.2 (by simpa using hls))
      have hle := le_of_closeFrom hrest
      rw [List.length_nil] at hle
      omega
  | cons c cs ih =>
    rw [List.cons_append, closeFrom_cons (by simp)] at h
    obtain ⟨ls, hstep, hrest⟩ := Option.bind_eq_some_iff.1 h
    split at hrest
    · simp at hrest
    · rename_i hls
      obtain ⟨ms', rfl, hms⟩ :=
        nestStep_of_append hstep (List.length_pos_iff.2 (by simpa using hls))
      rw [nest, hms, Option.bind_some]
      refine ih (i := i + 1) ?_
      rw [hrest, List.length_cons]
      congr 1
      omega

theorem closeFrom_eq_some_iff (ho : closer? o = some k) (i : Nat) (w rest : List Char) :
    closeFrom [k] i (w ++ k :: rest) = some (i + w.length) ↔ Matched w := by
  constructor
  · intro h
    have hnest : nest [] w = some [] := nest_of_closeFrom h
    exact matched_iff.2 hnest
  · intro h
    rw [h.isPassed, closeFrom_closer ho]
    rfl

/-- The bracket `o` is closed by the bracket `k` behind the text that follows it exactly if the
brackets of this text match. -/
theorem matchingClose?_eq_some_iff (ho : closer? o = some k) (before w rest : List Char) :
    matchingClose? (before ++ o :: (w ++ k :: rest)) before.length =
      some (before.length + 1 + w.length) ↔ Matched w := by
  rw [matchingClose?, List.drop_left, closeFrom_opener ho, closeFrom_eq_some_iff ho]

theorem wraps_iff (ho : closer? o = some k) (before w : List Char) :
    wraps (before ++ o :: (w ++ [k])) before.length = true ↔ Matched w := by
  have hlength : (before ++ o :: (w ++ [k])).length - 1 = before.length + 1 + w.length := by
    simp only [List.length_append, List.length_cons, List.length_nil]
    omega
  rw [wraps, beq_iff_eq, hlength]
  exact matchingClose?_eq_some_iff ho before w []

/-! ## The end of a bracket in the scan -/

/-- The closing brackets that are due in front of position `i` of a text. -/
def awaitedAt (text : List Char) (i : Nat) : Option (List Char) :=
  (Scan.start.over (fun _ => false) (text.take i)).map (·.awaited)

/-- The scan takes what stands at position `j` for the end of the bracket at position `i`: behind
it, and nowhere before, the same is due again as in front of that bracket. -/
structure PopsAt (text : List Char) (i j : Nat) : Prop where
  lt : i < j
  closes : awaitedAt text (j + 1) = awaitedAt text i
  waits : ∀ m, i < m → m ≤ j → awaitedAt text m ≠ awaitedAt text i

instance (text : List Char) (i j : Nat) : Decidable (PopsAt text i j) :=
  decidable_of_iff
    (i < j ∧ awaitedAt text (j + 1) = awaitedAt text i ∧
      ∀ m < j + 1, i < m → awaitedAt text m ≠ awaitedAt text i)
    ⟨fun ⟨hlt, hcloses, hwaits⟩ =>
        ⟨hlt, hcloses, fun m hm hmj => hwaits m (Nat.lt_succ_of_le hmj) hm⟩,
      fun ⟨hlt, hcloses, hwaits⟩ =>
        ⟨hlt, hcloses, fun m hmj hm => hwaits m hm (Nat.le_of_lt_succ hmj)⟩⟩

theorem PopsAt.unique {j' : Nat} (h : PopsAt text i j) (h' : PopsAt text i j') : j = j' := by
  rcases Nat.lt_trichotomy j j' with hlt | heq | hlt
  · exact absurd h.closes (h'.waits (j + 1) (Nat.lt_succ_of_lt h.lt) hlt)
  · exact heq
  · exact absurd h'.closes (h.waits (j' + 1) (Nat.lt_succ_of_lt h'.lt) hlt)

theorem awaitedAt_eq (text : List Char) (i : Nat) :
    awaitedAt text i = nest [] (bracketsAt text i) := by
  rw [awaitedAt, scan_take, Option.map_map]
  exact Option.map_id'

theorem awaitedAt_succ (hc : text[i]? = some c) (h : awaitedAt text i = some ks) :
    awaitedAt text (i + 1) = if quotedAt text i then some ks else nestStep ks c := by
  rw [awaitedAt_eq] at h ⊢
  rw [bracketsAt, nest_append, h, Option.bind_some]
  split
  · rfl
  · rw [hc, Option.toList_some, nest_filter, nest_singleton]

theorem exists_awaitedAt (h : awaitedAt text j = some ks) (hle : i ≤ j) :
    ∃ ls, awaitedAt text i = some ls := by
  obtain ⟨s, hs, -⟩ := Option.map_eq_some_iff.1 h
  rw [← List.take_append_drop i (text.take j), List.take_take, Nat.min_eq_left hle,
    Scan.over_append] at hs
  obtain ⟨t, ht, -⟩ := Option.bind_eq_some_iff.1 hs
  exact ⟨t.awaited, Option.map_eq_some_iff.2 ⟨t, ht, rfl⟩⟩

theorem IsClosed.awaitedAt_length (h : IsClosed text) : awaitedAt text text.length = some [] := by
  rw [awaitedAt, List.take_length, h]
  rfl

/-- The bracket `k`, due above `ks` from position `m` on, is taken off at position `j`. -/
structure IsTakenOff (text ks : List Char) (k : Char) (m j : Nat) : Prop where
  le : m ≤ j
  char : text[j]? = some k
  top : awaitedAt text j = some (k :: ks)
  off : awaitedAt text (j + 1) = some ks
  above : ∀ p, m ≤ p → p ≤ j → ∃ ls, awaitedAt text p = some (ls ++ k :: ks)

/-- A text that leaves nothing open closes all that is due. -/
theorem exists_isTakenOff (hend : awaitedAt text text.length = some [])
    (hm : awaitedAt text m = some (ms ++ k :: ks)) (hle : m ≤ text.length) :
    ∃ j, IsTakenOff text ks k m j := by
  obtain ⟨n, hn⟩ := Nat.exists_eq_add_of_le hle
  induction n generalizing m ms with
  | zero =>
    rw [Nat.add_zero] at hn
    rw [← hn, hend] at hm
    simp at hm
  | succ n ih =>
    have hlt : m < text.length := by omega
    have hc : text[m]? = some text[m] := List.getElem?_eq_getElem hlt
    obtain ⟨ls, hnext⟩ := exists_awaitedAt hend hlt
    have goOn (ms' : List Char) (hnext : awaitedAt text (m + 1) = some (ms' ++ k :: ks)) :
        ∃ j, IsTakenOff text ks k m j := by
      obtain ⟨j, hj⟩ := ih hnext hlt (by omega)
      refine ⟨j, Nat.le_of_lt hj.le, hj.char, hj.top, hj.off, fun p hp hpj => ?_⟩
      rcases Nat.eq_or_lt_of_le hp with rfl | hp
      · exact ⟨ms, hm⟩
      · exact hj.above p hp hpj
    have hstep := hnext
    rw [awaitedAt_succ hc hm] at hstep
    split at hstep
    · obtain rfl := Option.some.inj hstep
      exact goOn ms hnext
    · cases nestsTo_of_nestStep hstep with
      | @opener l ho => exact goOn (l :: ms) hnext
      | closer _ _ hks =>
        cases ms with
        | nil =>
          obtain ⟨hk, rfl⟩ := List.cons_eq_cons.1 hks
          refine ⟨m, Nat.le_refl m, hk ▸ hc, hm, hnext, fun p hp hpm => ⟨[], ?_⟩⟩
          rw [Nat.le_antisymm hpm hp, hm]
        | cons l ms =>
          obtain ⟨-, rfl⟩ := List.cons_eq_cons.1 hks
          exact goOn ms hnext
      | other => exact goOn ms hnext

/-- Does a bracket outside of quotes open at position `i`? -/
def opensAt (text : List Char) (i : Nat) : Bool :=
  !quotedAt text i && (text[i]?.bind closer?).isSome

theorem of_opensAt (h : opensAt text i = true) :
    quotedAt text i = false ∧ ∃ o k, text[i]? = some o ∧ closer? o = some k := by
  obtain ⟨hq, hsome⟩ := Bool.and_eq_true_iff.1 h
  obtain ⟨k, hk⟩ := Option.isSome_iff_exists.1 hsome
  obtain ⟨o, ho, hclose⟩ := Option.bind_eq_some_iff.1 hk
  exact ⟨Bool.not_eq_true' _ ▸ hq, o, k, ho, hclose⟩

/-- In a text that leaves nothing open, the scan finds the end of each bracket outside of quotes. -/
theorem exists_popsAt (h : IsClosed text) (hi : opensAt text i = true) :
    ∃ j, PopsAt text i j ∧ ∃ o k ks, text[i]? = some o ∧ closer? o = some k ∧
      awaitedAt text i = some ks ∧ IsTakenOff text ks k (i + 1) j := by
  obtain ⟨hq, o, k, ho, hk⟩ := of_opensAt hi
  obtain ⟨hlt, -⟩ := List.getElem?_eq_some_iff.1 ho
  have hend := h.awaitedAt_length
  obtain ⟨ks, hks⟩ := exists_awaitedAt hend (Nat.le_of_lt hlt)
  have hopen : awaitedAt text (i + 1) = some ([] ++ k :: ks) := by
    rw [awaitedAt_succ ho hks, hq, nestStep_opener hk]
    rfl
  obtain ⟨j, hj⟩ := exists_isTakenOff hend hopen hlt
  refine ⟨j, ⟨hj.le, hj.off.trans hks.symm, fun m hm hmj => ?_⟩, o, k, ks, ho, hk, hks, hj⟩
  obtain ⟨ls, hls⟩ := hj.above m hm hmj
  rw [hls, hks]
  intro heq
  have hlength := congrArg List.length (Option.some.inj heq)
  simp at hlength
  omega

/-! ## The search against the scan -/

/-- What stands behind position `i` and in front of position `j`. -/
def between (text : List Char) (i j : Nat) : List Char :=
  (text.take j).drop (i + 1)

theorem between_succ_self (text : List Char) (i : Nat) : between text i (i + 1) = [] := by
  rw [between, List.drop_eq_nil_of_le (List.length_take_le _ _)]

theorem between_succ (hm : i + 1 ≤ m) (hc : text[m]? = some c) :
    between text i (m + 1) = between text i m ++ [c] := by
  obtain ⟨hlt, -⟩ := List.getElem?_eq_some_iff.1 hc
  rw [between, List.take_add_one, hc, Option.toList_some, List.drop_append_of_le_length, between]
  rw [List.length_take]
  omega

theorem eq_append_between (hij : i < j) (hi : text[i]? = some o) (hj : text[j]? = some k) :
    text = text.take i ++ o :: (between text i j ++ k :: text.drop (j + 1)) := by
  have hfront : text.take j = text.take i ++ o :: between text i j := by
    rw [← List.take_append_drop (i + 1) (text.take j), List.take_take, Nat.min_eq_left hij,
      List.take_add_one, hi, List.append_assoc]
    rfl
  obtain ⟨hlt, hk⟩ := List.getElem?_eq_some_iff.1 hj
  have hback : text.drop j = k :: text.drop (j + 1) := by
    rw [List.drop_eq_getElem_cons hlt, hk]
  rw [← List.cons_append, ← List.append_assoc, ← hfront, ← hback, List.take_append_drop]

/-- The search for the end of a bracket comes to a bracket of its kind exactly if the brackets
between the two match. -/
theorem matchingClose?_iff_between (hij : i < j) (hi : text[i]? = some o) (hj : text[j]? = some k)
    (ho : closer? o = some k) : matchingClose? text i = some j ↔ Matched (between text i j) := by
  obtain ⟨hlt, -⟩ := List.getElem?_eq_some_iff.1 hj
  have htext := eq_append_between hij hi hj
  have hbefore : (text.take i).length = i := by
    rw [List.length_take]
    omega
  have hlength : i + 1 + (between text i j).length = j := by
    rw [between, List.length_drop, List.length_take]
    omega
  have hiff := matchingClose?_eq_some_iff ho (text.take i) (between text i j) (text.drop (j + 1))
  rwa [← htext, hbefore, hlength] at hiff

theorem PopsAt.matchingClose?_iff (h : PopsAt text i j) (hclosed : IsClosed text)
    (hi : opensAt text i = true) : matchingClose? text i = some j ↔ Matched (between text i j) := by
  obtain ⟨j', hpops, o, k, ks, ho, hk, -, hoff⟩ := exists_popsAt hclosed hi
  obtain rfl := h.unique hpops
  exact matchingClose?_iff_between h.lt ho hoff.char hk

/-! ## Texts without brackets in quotes -/

/-- No bracket stands between quotes. -/
def HidesNoBracket (text : List Char) : Prop :=
  ∀ i c, text[i]? = some c → quotedAt text i = true → isBracket c = false

namespace HidesNoBracket

theorem bracketsAt_eq (h : HidesNoBracket text) (i : Nat) :
    bracketsAt text i = (text.take i).filter isBracket := by
  induction i with
  | zero => rfl
  | succ i ih =>
    rw [bracketsAt, ih, List.take_add_one, List.filter_append]
    cases hq : quotedAt text i with
    | false => rfl
    | true =>
      cases hc : text[i]? with
      | none => rfl
      | some c => simp [h i c hc hq]

/-- All brackets of the text match. -/
theorem matched (h : HidesNoBracket text) (hclosed : IsClosed text) : Matched text := by
  have hbrackets := (isClosed_iff_isNested.1 hclosed).brackets
  rw [h.bracketsAt_eq, List.take_length, Matched, List.filter_filter] at hbrackets
  simpa [Matched] using hbrackets

theorem awaitedAt_succ_eq (h : HidesNoBracket text) (hc : text[m]? = some c)
    (hm : awaitedAt text m = some ks) : awaitedAt text (m + 1) = nestStep ks c := by
  rw [awaitedAt_succ hc hm]
  split
  · rename_i hq
    rw [nestStep_of_not_isBracket (h m c hc hq)]
  · rfl

/-- What is due above a bracket is what the text behind it opens and leaves open. -/
theorem nest_between (h : HidesNoBracket text) (hj : IsTakenOff text ks k (i + 1) j)
    (hopen : awaitedAt text (i + 1) = some (k :: ks)) (hm : i + 1 ≤ m) (hmj : m ≤ j) :
    ∃ ls, nest [] (between text i m) = some ls ∧ awaitedAt text m = some (ls ++ k :: ks) := by
  obtain ⟨hlt, -⟩ := List.getElem?_eq_some_iff.1 hj.char
  induction m, hm using Nat.le_induction with
  | base => exact ⟨[], by rw [between_succ_self, nest], hopen⟩
  | succ m hm ih =>
    obtain ⟨ms, hnest, hms⟩ := ih (Nat.le_of_succ_le hmj)
    obtain ⟨ls, hls⟩ := hj.above (m + 1) (Nat.le_succ_of_le hm) hmj
    have hc : text[m]? = some text[m] := List.getElem?_eq_getElem (hmj.trans hlt.le)
    have hstep : nestStep (ms ++ k :: ks) text[m] = some (ls ++ k :: ks) :=
      (h.awaitedAt_succ_eq hc hms).symm.trans hls
    obtain ⟨ms', heq, hms'⟩ := nestStep_of_append hstep (by simp; omega)
    refine ⟨ms', ?_, heq ▸ hls⟩
    rw [between_succ hm hc, nest_append, hnest, Option.bind_some, nest_singleton, hms']

/-- The brackets between an opening bracket and its end match. -/
theorem matched_between (h : HidesNoBracket text) (hclosed : IsClosed text)
    (hi : opensAt text i = true) (hj : PopsAt text i j) : Matched (between text i j) := by
  obtain ⟨j', hpops, o, k, ks, ho, hk, hks, hoff⟩ := exists_popsAt hclosed hi
  obtain rfl := hj.unique hpops
  have hopen : awaitedAt text (i + 1) = some (k :: ks) :=
    (h.awaitedAt_succ_eq ho hks).trans (nestStep_opener hk ks)
  obtain ⟨ls, hnest, hls⟩ := h.nest_between hoff hopen hj.lt (Nat.le_refl j)
  rw [hoff.top] at hls
  obtain rfl := List.self_eq_append_left.1 (Option.some.inj hls)
  exact matched_iff.2 hnest

end HidesNoBracket

end SceneBridge.Brackets
