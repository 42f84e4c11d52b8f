import SceneBridge.Proofs.Nesting

/-!
# Parts of a text

What is known of the parts into which a text is split outside of brackets and quotes. Nothing of the
text is lost, and every part can be split on its own. If the number of cuts is not bounded, each
part has all of its separators between brackets or quotes.
-/

namespace SceneBridge.Brackets

open Text

variable {s t : Scan} {c d : Char} {sep sep' : Char → Bool} {budget budget' : Option Nat}
  {text v w cs : List Char} {parts : List (List Char)} {i : Nat}

/-! ## Separators -/

theorem Scan.atTop_of_separates (h : s.separates sep c = true) : s.atTop = true := by
  simp only [Scan.separates, Bool.and_eq_true] at h
  exact h.1.1.1.1

/-- Behind a separator the scan is where it was in front of the text. -/
theorem Scan.step_of_separates (h : s.separates sep c = true) :
    s.step c = some ⟨[], false, some c⟩ := by
  obtain ⟨awaited, quoted, previous⟩ := s
  have htop := Scan.atTop_of_separates h
  simp only [Scan.atTop, Bool.and_eq_true, List.isEmpty_iff, Bool.not_eq_true'] at htop
  obtain ⟨rfl, rfl⟩ := htop
  simp only [Scan.separates, Bool.and_eq_true, Bool.not_eq_true', Option.isNone_iff_eq_none] at h
  exact Scan.step_eq_some_iff.2 (.plain h.1.1.1.2 rfl h.1.1.2 h.1.2)

/-! ## Texts that cannot be split -/

/-- What is wrong with a text has nothing to do with where it is cut. -/
theorem splitFrom_fault (s : Scan) (i : Nat) (cs : List Char) :
    (splitFrom text sep budget s i cs).map (fun _ => ()) =
      (splitFrom text sep' budget' s i cs).map fun _ => () := by
  induction cs generalizing s i budget budget' with
  | nil => rw [splitFrom, splitFrom]
  | cons c cs ih =>
    rw [splitFrom, splitFrom]
    cases s.step c with
    | none => rfl
    | some t =>
      dsimp only
      split <;> split <;> rw [map_map, map_map] <;> exact ih t (i + 1)

theorem map_eq_error {α β : Type} {f : α → β} {x : Except Malformed α} {fault : Malformed} :
    x.map f = .error fault ↔ x = .error fault := by
  cases x <;> simp [Except.map]

theorem split_eq_error_iff {fault : Malformed} :
    Brackets.split sep budget text = .error fault ↔
      Brackets.split sep' budget' text = .error fault := by
  have hsame : (Brackets.split sep budget text).map (fun _ => ()) =
      (Brackets.split sep' budget' text).map fun _ => () := splitFrom_fault .start 0 text
  cases hleft : Brackets.split sep budget text <;>
    cases hright : Brackets.split sep' budget' text <;>
    simp_all [Except.map]

/-! ## Joining -/

theorem intercalate_nil_cons (c : Char) (h : parts ≠ []) :
    [c].intercalate ([] :: parts) = c :: [c].intercalate parts := by
  cases parts with
  | nil => exact absurd rfl h
  | cons p ps => rfl

theorem intercalate_consFirst (c d : Char) (parts : List (List Char)) :
    [c].intercalate (consFirst d parts) = d :: [c].intercalate parts := by
  match parts with
  | [] => rfl
  | [p] => rfl
  | p :: q :: ps => simp [consFirst, List.intercalate_cons_cons]

/-- Nothing but the separators between them is missing from the parts. -/
theorem intercalate_of_splitFrom (h : splitFrom text (· == c) budget s i cs = .ok parts) :
    [c].intercalate parts = cs := by
  induction cs generalizing s i budget parts with
  | nil =>
    unfold splitFrom at h
    split at h
    · cases h
      rfl
    · cases h
  | cons d ds ih =>
    unfold splitFrom at h
    split at h
    · cases h
    · split at h <;> obtain ⟨more, hmore, rfl⟩ := map_eq_ok.1 h
      · rename_i hcut
        have hd := Scan.sep_of_separates (Bool.and_eq_true_iff.1 hcut).1
        rw [intercalate_nil_cons c (ne_nil_of_splitFrom hmore), ih hmore, eq_of_beq hd]
      · rw [intercalate_consFirst, ih hmore]

/-! ## The parts -/

/-- The scan gets over the first part from where it stands, and over every other part from the
start. -/
theorem parts_of_splitFrom (hsep : ∀ d, sep d = true → d ≠ '\\')
    (hsep' : ∀ d, sep' d = true → sep d = true ∧ budget = none)
    (h : splitFrom text sep budget s i cs = .ok (v :: parts)) :
    (∃ t, s.over sep' v = some t ∧ t.atTop = true) ∧ ∀ w ∈ parts, IsPart sep' w := by
  induction cs generalizing s i budget v parts with
  | nil =>
    unfold splitFrom at h
    split at h
    · cases h
      exact ⟨⟨s, rfl, ‹_›⟩, List.forall_mem_nil _⟩
    · cases h
  | cons c cs ih =>
    unfold splitFrom at h
    split at h
    · cases h
    · rename_i u hstep
      split at h <;> obtain ⟨more, hmore, heq⟩ := map_eq_ok.1 h <;>
        obtain ⟨w, ws, rfl⟩ := List.exists_cons_of_ne_nil (ne_nil_of_splitFrom hmore)
      · rename_i hcut
        obtain ⟨rfl, rfl⟩ := List.cons_eq_cons.1 heq
        have hseparates := (Bool.and_eq_true_iff.1 hcut).1
        obtain rfl := Option.some.inj (hstep.symm.trans (Scan.step_of_separates hseparates))
        obtain ⟨⟨t, hover, htop⟩, hws⟩ :=
          ih (fun d hd => ⟨(hsep' d hd).1, by rw [(hsep' d hd).2]; rfl⟩) hmore
        refine ⟨⟨s, rfl, Scan.atTop_of_separates hseparates⟩, List.forall_mem_cons.2 ⟨?_, hws⟩⟩
        -- The separator in front of the part is no backslash.
        have hprevious : some c ≠ some '\\' := by
          simpa using hsep c (Scan.sep_of_separates hseparates)
        obtain ⟨q, hstart⟩ :=
          Scan.exists_over_of_previous (p := none) (fun _ => ⟨hprevious, nofun⟩) hover
        exact isPart_of_over hstart htop
      · rename_i hkeep
        obtain ⟨rfl, rfl⟩ := List.cons_eq_cons.1 heq
        obtain ⟨⟨t, hover, htop⟩, hws⟩ := ih hsep' hmore
        refine ⟨⟨t, Scan.over_cons_eq_some.2 ⟨?_, u, hstep, hover⟩, htop⟩, hws⟩
        cases hc : sep' c with
        | false => simp [Scan.separates, hc]
        | true =>
          obtain ⟨hc', rfl⟩ := hsep' c hc
          simpa [Scan.separates, hc, hc'] using hkeep

/-- Every part leaves nothing open, and if the number of cuts is not bounded, it has no separator
outside of brackets and quotes. -/
theorem isPart_of_mem_split (hsep : ∀ d, sep d = true → d ≠ '\\')
    (hsep' : ∀ d, sep' d = true → sep d = true ∧ budget = none)
    (h : Brackets.split sep budget text = .ok parts) (hv : v ∈ parts) : IsPart sep' v := by
  obtain ⟨w, ws, rfl⟩ := List.exists_cons_of_ne_nil (ne_nil_of_splitFrom h)
  obtain ⟨⟨t, hover, htop⟩, hws⟩ := parts_of_splitFrom hsep hsep' h
  obtain rfl | hv := List.mem_cons.1 hv
  · exact isPart_of_over hover htop
  · exact hws v hv

/-! ## Counting -/

/-- How often `c` stands in a text outside of brackets and quotes. -/
def countOutside (c : Char) (text : List Char) : Nat :=
  (List.range text.length).countP fun i => text[i]? == some c && outsideAt text i

/-- The scan cuts where the character stands outside of brackets and quotes. -/
theorem Scan.separates_eq (hc : c ∉ marks)
    (hs : Scan.start.over (fun _ => false) (text.take i) = some s) (hd : text[i]? = some d) :
    s.separates (· == c) d = (text[i]? == some c && outsideAt text i) := by
  rw [hd, ← atTop_eq_outsideAt hs, Scan.separates]
  cases heq : d == c with
  | false => simp [heq]
  | true =>
    obtain rfl := eq_of_beq heq
    obtain ⟨ho, hk, hquote⟩ := isPlain_of_notMem hc
    simp [Scan.isQuote, ho, hk, hquote]

theorem over_take_succ (hs : Scan.start.over (fun _ => false) (text.take i) = some s)
    (hd : text[i]? = some d) (hstep : s.step d = some t) :
    Scan.start.over (fun _ => false) (text.take (i + 1)) = some t := by
  rw [List.take_add_one, hd, Scan.over_append, hs, Option.bind_some]
  exact Scan.over_cons_eq_some.2 ⟨Bool.and_false _, t, hstep, rfl⟩

/-- Every separator outside of brackets and quotes makes one part more, as long as cuts are left. -/
theorem length_of_splitFrom (hc : c ∉ marks)
    (hs : Scan.start.over (fun _ => false) (text.take i) = some s) (hcs : text.drop i = cs)
    (h : splitFrom text (· == c) budget s i cs = .ok parts) :
    parts.length = budget.elim id min
      ((List.range' i cs.length).countP fun i => text[i]? == some c && outsideAt text i) + 1 := by
  induction cs generalizing s i budget parts with
  | nil =>
    unfold splitFrom at h
    split at h
    · cases h
      cases budget <;> simp
    · cases h
  | cons d ds ih =>
    have hd : text[i]? = some d := by
      rw [← List.head?_drop, hcs, List.head?_cons]
    have hds : text.drop (i + 1) = ds := by
      rw [← List.drop_drop, hcs, List.drop_one, List.tail_cons]
    have hseparates := Scan.separates_eq hc hs hd
    unfold splitFrom at h
    split at h
    · cases h
    · rename_i t hstep
      have hlength {budget : Option Nat} {more : List (List Char)}
          (hmore : splitFrom text (· == c) budget t (i + 1) ds = .ok more) :=
        ih (over_take_succ hs hd hstep) hds hmore
      rw [List.length_cons, List.range'_succ, List.countP_cons, ← hseparates]
      split at h <;> obtain ⟨more, hmore, rfl⟩ := map_eq_ok.1 h
      · rename_i hcut
        obtain ⟨hcut, hbudget⟩ := Bool.and_eq_true_iff.1 hcut
        rw [List.length_cons, hlength hmore, if_pos hcut]
        cases budget with
        | none => rfl
        | some n =>
          have hpos : n ≠ 0 := by simpa using hbudget
          simp only [Option.map_some, Option.elim_some]
          omega
      · rename_i hkeep
        rw [length_consFirst (ne_nil_of_splitFrom hmore), hlength hmore]
        cases hcut : s.separates (· == c) d with
        | false => rfl
        | true =>
          obtain rfl : budget = some 0 := by simpa [hcut] using hkeep
          simp

theorem length_of_split (hc : c ∉ marks) (h : Brackets.split (· == c) budget text = .ok parts) :
    parts.length = budget.elim id min (countOutside c text) + 1 := by
  rw [countOutside, List.range_eq_range']
  exact length_of_splitFrom hc rfl rfl h

/-! ## Splitting texts -/

theorem ofList_intercalate (c : Char) (parts : List (List Char)) :
    join (String.singleton c) (parts.map String.ofList) =
      String.ofList ([c].intercalate parts) := by
  rw [join, ← String.toList_inj, String.toList_intercalate]
  simp [Function.comp_def]

/-- What is true of the parts of a text between its top-level characters `c`, at most `most` cuts
being made unless `most` is negative. -/
structure ArePartsOf (text : String) (c : Char) (most : Int) (parts : List String) : Prop where
  /-- With the separators between them they are the text. -/
  joined : join (String.singleton c) parts = text
  /-- Every part can be split on its own. -/
  accepted : ∀ part ∈ parts, ∀ (sep : String) (most : Int), ∃ ps, splitText part sep most = .ok ps
  /-- There are no more cuts than were asked for. -/
  few : 0 ≤ most → (parts.length : Int) ≤ most + 1
  /-- Without a bound, no part is split any further. -/
  whole : most < 0 → ∀ part ∈ parts, splitText part (String.singleton c) most = .ok [part]
  /-- Without a bound, no part has a separator outside of brackets and quotes. -/
  clean : most < 0 → ∀ part ∈ parts, countOutside c part.toList = 0
  /-- Without a bound, there is a cut at every separator outside of brackets and quotes. -/
  cuts : most < 0 → parts.length = countOutside c text.toList + 1

/-- The number of cuts that are left. -/
def cutsOf (most : Int) : Option Nat :=
  if most < 0 then none else some most.toNat

theorem splitText_eq (text sep : String) (most : Int) :
    splitText text sep most =
      (Brackets.split (fun c => sep == String.singleton c) (cutsOf most) text.toList).map
        (·.map String.ofList) := rfl

theorem singleton_beq_singleton (c d : Char) :
    (String.singleton c == String.singleton d) = (d == c) := by
  have hiff : String.singleton c = String.singleton d ↔ d = c := by
    rw [← String.toList_inj]
    simp [eq_comm]
  rw [Bool.eq_iff_iff, beq_iff_eq, beq_iff_eq, hiff]

theorem splitText_eq_ok {text : String} {most : Int} {parts : List String} :
    splitText text (String.singleton c) most = .ok parts ↔
      ∃ ps, Brackets.split (· == c) (cutsOf most) text.toList = .ok ps ∧
        ps.map String.ofList = parts := by
  have hsep : (fun d => String.singleton c == String.singleton d) = (· == c) :=
    funext (singleton_beq_singleton c)
  rw [splitText_eq, map_eq_ok, hsep]

theorem exists_splitText (text sep : String) (most : Int) (h : IsClosed text.toList) :
    ∃ ps, splitText text sep most = .ok ps := by
  obtain ⟨ps, hps⟩ := isClosed_iff.1 h
  exact ⟨ps.map String.ofList, map_eq_ok.2 ⟨ps, hps, rfl⟩⟩

theorem cutsOf_of_neg {most : Int} (h : most < 0) : cutsOf most = none :=
  if_pos h

theorem cutsOf_of_nonneg {most : Int} (h : 0 ≤ most) : cutsOf most = some most.toNat :=
  if_neg (Int.not_lt.2 h)

theorem arePartsOf_of_split {text : String} {most : Int} (hbackslash : c ≠ '\\') (hc : c ∉ marks)
    (h : Brackets.split (· == c) (cutsOf most) text.toList = .ok parts) :
    ArePartsOf text c most (parts.map String.ofList) := by
  have hsep : ∀ d, (d == c) = true → d ≠ '\\' := by
    intro d hd
    rwa [eq_of_beq hd]
  have hclosed : ∀ v ∈ parts, IsClosed v := fun v => isPart_of_mem_split hsep nofun h
  have hpart (hmost : most < 0) : ∀ v ∈ parts, IsPart (· == c) v := fun v =>
    isPart_of_mem_split hsep (fun d hd => ⟨hd, cutsOf_of_neg hmost⟩) h
  have hlength := length_of_split hc h
  refine ⟨?_, ?_, fun hmost => ?_, fun hmost => ?_, fun hmost => ?_, fun hmost => ?_⟩
  · rw [ofList_intercalate, intercalate_of_splitFrom h, String.ofList_toList]
  · refine List.forall_mem_map.2 fun v hv sep most => exists_splitText _ sep most ?_
    rw [String.toList_ofList]
    exact hclosed v hv
  · rw [cutsOf_of_nonneg hmost, Option.elim_some] at hlength
    rw [List.length_map, hlength]
    omega
  · refine List.forall_mem_map.2 fun v hv => splitText_eq_ok.2 ⟨[v], ?_, rfl⟩
    rw [String.toList_ofList]
    exact (hpart hmost v hv).split
  · refine List.forall_mem_map.2 fun v hv => ?_
    have hone : [v].length = Option.elim none id min (countOutside c v) + 1 :=
      length_of_split hc (hpart hmost v hv).split
    rw [String.toList_ofList]
    simpa using hone
  · rw [cutsOf_of_neg hmost] at hlength
    rw [List.length_map]
    exact hlength

/-- Whether a text can be split, and what is wrong with it if it cannot, depends on the text alone;
and nothing is lost of a text that is split. -/
theorem splitText_lossless (hc : c ∉ '\\' :: marks) (text : String) (most : Int) :
    ((∃ parts, splitText text (String.singleton c) most = .ok parts) ↔ IsNested text.toList) ∧
    (∀ (sep : String) (most' : Int) (fault : Malformed),
      splitText text (String.singleton c) most = .error fault ↔
        splitText text sep most' = .error fault) ∧
    ∀ parts, splitText text (String.singleton c) most = .ok parts →
      ArePartsOf text c most parts := by
  obtain ⟨hbackslash, hmarks⟩ := not_or.1 (mt List.mem_cons.2 hc)
  refine ⟨?_, fun sep most' fault => ?_, fun parts hparts => ?_⟩
  · rw [← isClosed_iff_isNested]
    constructor
    · rintro ⟨parts, hparts⟩
      obtain ⟨ps, hps, -⟩ := splitText_eq_ok.1 hparts
      exact isClosed_iff.2 ⟨ps, hps⟩
    · exact exists_splitText text (String.singleton c) most
  · rw [splitText_eq, splitText_eq, map_eq_error, map_eq_error]
    exact split_eq_error_iff
  · obtain ⟨ps, hps, rfl⟩ := splitText_eq_ok.1 hparts
    exact arePartsOf_of_split hbackslash hmarks hps

theorem arePartsOf_quoted_bar :
    '|' ∉ '\\' :: marks ∧
      ArePartsOf "a<b|c>|\"|>\"||\x7bk: \"\\\"|\"\x7d" '|' (-1)
        ["a<b|c>", "\"|>\"", "", "\x7bk: \"\\\"|\"\x7d"] := by
  have hbar : '|' ∉ '\\' :: marks := by decide
  obtain ⟨-, -, hparts⟩ :=
    splitText_lossless hbar "a<b|c>|\"|>\"||\x7bk: \"\\\"|\"\x7d" (-1)
  exact ⟨hbar, hparts _ (by decide)⟩

end SceneBridge.Brackets
