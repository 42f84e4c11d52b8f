import SceneBridge.Proofs.Brackets
import SceneBridge.Proofs.Trimming

/-!
# Scans piece by piece

The scan of a text that is put together from pieces goes over one piece after another. A piece that
leaves neither a bracket nor a quote open is passed without a trace wherever it stands outside of
quotes. A text that can be split at all is such a piece, and it stays in one part if none of its
characters outside of brackets and quotes separates.
-/

namespace SceneBridge.Brackets

open Text

/-! ## Going over a text -/

/-- The scan behind a text. `none` if a character of the text separates, or closes what was not
opened. -/
def Scan.over (sep : Char → Bool) : Scan → List Char → Option Scan
  | s, [] => some s
  | s, c :: cs => if s.separates sep c then none else (s.step c).bind (Scan.over sep · cs)

variable {sep sep' : Char → Bool} {s t u : Scan} {c : Char} {v w cs ks : List Char}

theorem Scan.over_cons_eq_some :
    s.over sep (c :: cs) = some u ↔
      s.separates sep c = false ∧ ∃ t, s.step c = some t ∧ t.over sep cs = some u := by
  rw [Scan.over]
  cases s.separates sep c with
  | true => simp
  | false => simp [Option.bind_eq_some_iff]

theorem Scan.over_append (s : Scan) (v w : List Char) :
    s.over sep (v ++ w) = (s.over sep v).bind (Scan.over sep · w) := by
  induction v generalizing s with
  | nil => rfl
  | cons c cs ih =>
    rw [List.cons_append, Scan.over, Scan.over]
    cases s.separates sep c with
    | true => rfl
    | false =>
      cases s.step c with
      | none => rfl
      | some t => exact ih t

/-- Fewer separators stop fewer scans. -/
theorem Scan.over_mono (hsep : ∀ c ∈ w, sep' c = true → sep c = true)
    (h : s.over sep w = some t) : s.over sep' w = some t := by
  induction w generalizing s with
  | nil => exact h
  | cons c cs ih =>
    obtain ⟨hc, u, hstep, hrest⟩ := Scan.over_cons_eq_some.1 h
    refine Scan.over_cons_eq_some.2
      ⟨?_, u, hstep, ih (fun d hd => hsep d (List.mem_cons_of_mem _ hd)) hrest⟩
    simp only [Scan.separates] at hc ⊢
    cases hc' : sep' c with
    | false => simp
    | true => simpa [hsep c List.mem_cons_self hc'] using hc

/-- What one character makes of a scan. -/
inductive Scan.Steps (s : Scan) (c : Char) : Scan → Prop
  | quote (hc : s.isQuote c = true) : Steps s c ⟨s.awaited, !s.quoted, some c⟩
  | inside (hc : s.isQuote c = false) (hq : s.quoted = true) : Steps s c ⟨s.awaited, true, some c⟩
  | opener {k : Char} (hc : s.isQuote c = false) (hq : s.quoted = false) (ho : closer? c = some k) :
      Steps s c ⟨k :: s.awaited, false, some c⟩
  | closer {ks : List Char} (hc : s.isQuote c = false) (hq : s.quoted = false)
      (ho : closer? c = none) (hk : isCloser c = true) (hs : s.awaited = c :: ks) :
      Steps s c ⟨ks, false, some c⟩
  | plain (hc : s.isQuote c = false) (hq : s.quoted = false) (ho : closer? c = none)
      (hk : isCloser c = false) : Steps s c ⟨s.awaited, false, some c⟩

theorem Scan.step_eq_some_iff : s.step c = some t ↔ s.Steps c t := by
  obtain ⟨awaited, quoted, previous⟩ := s
  constructor
  · intro h
    unfold Scan.step at h
    split at h
    · cases h
      exact .quote ‹_›
    · rename_i hc
      have hc := Bool.eq_false_iff.2 hc
      split at h
      · cases h
        exact .inside hc ‹_›
      · rename_i hq
        have hq := Bool.eq_false_iff.2 hq
        split at h
        · cases h
          exact .opener hc hq ‹_›
        · rename_i ho
          split at h
          · rename_i hk
            split at h
            · rename_i k ks hs
              split at h
              · rename_i heq
                cases h
                obtain rfl := eq_of_beq heq
                exact .closer hc hq ho hk hs
              · cases h
            · cases h
          · rename_i hk
            cases h
            exact .plain hc hq ho (Bool.eq_false_iff.2 hk)
  · intro h
    cases h with
    | quote hc => simp [Scan.step, hc]
    | inside hc hq => simp_all [Scan.step]
    | opener hc hq ho => simp_all [Scan.step]
    | closer hc hq ho hk hs => simp_all [Scan.step]
    | plain hc hq ho hk => simp_all [Scan.step]

theorem Scan.previous_of_step (h : s.step c = some t) : t.previous = some c := by
  cases Scan.step_eq_some_iff.1 h <;> rfl

theorem Scan.previous_of_over (h : s.over sep w = some t) :
    t.previous = w.getLast?.or s.previous := by
  induction w generalizing s with
  | nil =>
    cases h
    rfl
  | cons c cs ih =>
    obtain ⟨-, u, hstep, hrest⟩ := Scan.over_cons_eq_some.1 h
    rw [ih hrest, Scan.previous_of_step hstep, List.getLast?_cons]
    cases cs.getLast? <;> rfl

/-- A scan that has nothing else open behind a text than in front of it. -/
theorem Scan.eq_past (h : s.over sep w = some t) (hawaited : t.awaited = s.awaited)
    (hquoted : t.quoted = s.quoted) : t = s.past w := by
  have hprevious := Scan.previous_of_over h
  obtain ⟨awaited, quoted, previous⟩ := t
  subst hawaited hquoted hprevious
  rfl

/-! ## Brackets around a scan -/

/-- The scan with more brackets open around it. -/
def Scan.under (s : Scan) (ks : List Char) : Scan :=
  { s with awaited := s.awaited ++ ks }

/-- What is open further out has no part in a step. -/
theorem Scan.step_under (ks : List Char) (h : s.step c = some t) :
    (s.under ks).step c = some (t.under ks) := by
  refine Scan.step_eq_some_iff.2 ?_
  cases Scan.step_eq_some_iff.1 h with
  | quote hc => exact .quote hc
  | inside hc hq => exact .inside hc hq
  | opener hc hq ho => exact .opener hc hq ho
  | closer hc hq ho hk hs =>
    refine .closer hc hq ho hk ?_
    rw [Scan.under, hs, List.cons_append]
  | plain hc hq ho hk => exact .plain hc hq ho hk

/-- Inside of a bracket nothing separates. -/
theorem Scan.separates_under (hks : ks ≠ []) (s : Scan) (c : Char) :
    (s.under ks).separates sep c = false := by
  simp [Scan.separates, Scan.atTop, Scan.under, hks]

theorem Scan.over_under (hks : ks ≠ []) (h : s.over sep w = some t) :
    (s.under ks).over sep' w = some (t.under ks) := by
  induction w generalizing s with
  | nil =>
    cases h
    rfl
  | cons c cs ih =>
    obtain ⟨-, u, hstep, hrest⟩ := Scan.over_cons_eq_some.1 h
    exact Scan.over_cons_eq_some.2
      ⟨Scan.separates_under hks s c, u.under ks, Scan.step_under ks hstep, ih hrest⟩

/-! ## Closed texts -/

/-- A text that leaves neither a bracket nor a quote open and has no separator outside of them. -/
def IsPart (sep : Char → Bool) (w : List Char) : Prop :=
  Scan.start.over sep w = some (Scan.start.past w)

instance (sep : Char → Bool) (w : List Char) : Decidable (IsPart sep w) :=
  inferInstanceAs (Decidable (_ = _))

/-- A text that leaves neither a bracket nor a quote open. -/
abbrev IsClosed (w : List Char) : Prop :=
  IsPart (fun _ => false) w

/-- Of what was read before, a scan sees no more than whether a quote comes behind a backslash. -/
theorem Scan.exists_over_of_previous {p : Option Char}
    (hp : w.head? = some '"' → s.previous ≠ some '\\' ∧ p ≠ some '\\')
    (h : s.over sep w = some t) :
    ∃ q, Scan.over sep ⟨s.awaited, s.quoted, p⟩ w = some ⟨t.awaited, t.quoted, q⟩ := by
  cases w with
  | nil =>
    cases h
    exact ⟨p, rfl⟩
  | cons c cs =>
    have hquote : Scan.isQuote ⟨s.awaited, s.quoted, p⟩ c = s.isQuote c := by
      rw [Scan.isQuote, Scan.isQuote]
      cases hc : c == '"' with
      | false => rfl
      | true =>
        obtain ⟨hs, hp⟩ := hp (congrArg some (eq_of_beq hc))
        rw [bne_iff_ne.2 hp, bne_iff_ne.2 hs]
    have hstep : Scan.step ⟨s.awaited, s.quoted, p⟩ c = s.step c := by
      rw [Scan.step, Scan.step, hquote]
    have hsep : Scan.separates ⟨s.awaited, s.quoted, p⟩ sep c = s.separates sep c := by
      rw [Scan.separates, Scan.separates, hquote]
      rfl
    refine ⟨t.previous, ?_⟩
    rw [Scan.over, hstep, hsep]
    exact h

namespace IsPart

theorem mono (hsep : ∀ c ∈ w, sep' c = true → sep c = true) (h : IsPart sep w) : IsPart sep' w :=
  Scan.over_mono hsep h

theorem isClosed (h : IsPart sep w) : IsClosed w :=
  h.mono nofun

/-- A closed text is in one part as far as it has no separator. -/
theorem of_notMem (h : IsClosed w) (hc : c ∉ w) : IsPart (· == c) w :=
  h.mono fun _ hd heq => absurd (eq_of_beq heq ▸ hd) hc

/-- The text is passed without a trace where brackets are open around it, or where nothing separates
that does not separate in it. -/
theorem over_eq (h : IsPart sep w) (hq : s.quoted = false)
    (hp : w.head? = some '"' → s.previous ≠ some '\\')
    (hs : s.awaited ≠ [] ∨ ∀ c, sep' c = true → sep c = true) :
    s.over sep' w = some (s.past w) := by
  obtain ⟨awaited, quoted, previous⟩ := s
  obtain rfl : quoted = false := hq
  obtain ⟨q, hover⟩ : ∃ q, Scan.over sep ⟨[], false, previous⟩ w = some ⟨[], false, q⟩ :=
    Scan.exists_over_of_previous (s := .start) (fun hw => ⟨nofun, hp hw⟩) h
  rw [Scan.eq_past hover rfl rfl] at hover
  cases awaited with
  | nil =>
    obtain hs | hsep := hs
    · exact absurd rfl hs
    · exact Scan.over_mono (fun c _ => hsep c) hover
  | cons k ks => exact Scan.over_under (List.cons_ne_nil k ks) hover

theorem nil : IsPart sep [] := rfl

theorem append (hv : IsPart sep v) (hw : IsPart sep w)
    (hlast : w.head? = some '"' → v.getLast? ≠ some '\\') : IsPart sep (v ++ w) := by
  have hrest : (Scan.start.past v).over sep w = some ((Scan.start.past v).past w) := by
    refine hw.over_eq rfl (fun hquote => ?_) (.inr fun _ h => h)
    simpa [Scan.past, Scan.start] using hlast hquote
  rw [IsPart, Scan.over_append, hv, Option.bind_some, hrest, Scan.past_append]

/-- Brackets around a closed text hide all of its separators. -/
theorem enclose {o k : Char} (ho : closer? o = some k) (hw : IsClosed w) :
    IsPart sep (o :: (w ++ [k])) := by
  have hopen : Scan.start.separates sep o = false := by simp [Scan.separates, ho]
  have hclose (p : Option Char) : Scan.separates ⟨[k], false, p⟩ sep k = false := by
    simp [Scan.separates, isCloser_closer ho]
  have hlast : Scan.over sep (Scan.past ⟨[k], false, some o⟩ w) [k] = some ⟨[], false, some k⟩ :=
    Scan.over_cons_eq_some.2 ⟨hclose _, _, Scan.step_closer ho [] _, rfl⟩
  have hinside : Scan.over sep ⟨[k], false, some o⟩ (w ++ [k]) = some ⟨[], false, some k⟩ := by
    have hbackslash : some o ≠ some '\\' := by
      rintro ⟨⟩
      cases ho
    have hover : Scan.over sep ⟨[k], false, some o⟩ w = some (Scan.past ⟨[k], false, some o⟩ w) :=
      hw.over_eq rfl (fun _ => hbackslash) (.inl (List.cons_ne_nil k []))
    rw [Scan.over_append, hover, Option.bind_some, hlast]
  have hpast : Scan.start.past (o :: (w ++ [k])) = ⟨[], false, some k⟩ := by
    simp [Scan.past, Scan.start, List.getLast?_cons]
  rw [IsPart, hpast]
  exact Scan.over_cons_eq_some.2 ⟨hopen, _, Scan.step_opener rfl ho, hinside⟩

theorem of_plain (h : ∀ c ∈ w, IsPlain c ∧ sep c = false) : IsPart sep w := by
  suffices ∀ s : Scan, s.quoted = false → s.over sep w = some (s.past w) from this .start rfl
  induction w with
  | nil => exact fun s _ => rfl
  | cons c cs ih =>
    intro s hs
    obtain ⟨hplain, hsep⟩ := h c List.mem_cons_self
    have hrest := ih (fun d hd => h d (List.mem_cons_of_mem _ hd)) ⟨s.awaited, s.quoted, some c⟩ hs
    rw [Scan.past_cons] at hrest
    exact Scan.over_cons_eq_some.2
      ⟨by simp [Scan.separates, hsep], _, Scan.step_plain hs hplain, hrest⟩

/-- Parts that are joined by a part are no more open than each of them. -/
theorem intercalate {ws : List (List Char)} (hv : IsPart sep v) (hne : v ≠ [])
    (hquote : v.head? ≠ some '"') (hbackslash : v.getLast? ≠ some '\\')
    (hws : ∀ w ∈ ws, IsPart sep w) : IsPart sep (v.intercalate ws) := by
  induction ws with
  | nil => exact nil
  | cons w ws ih =>
    have hw := hws w List.mem_cons_self
    have hrest := ih fun u hu => hws u (List.mem_cons_of_mem _ hu)
    cases ws with
    | nil => simpa using hw
    | cons u us =>
      have hjoined : IsPart sep (w ++ v) := hw.append hv fun h => absurd h hquote
      rw [List.intercalate_cons_cons]
      refine hjoined.append hrest fun _ => ?_
      rwa [List.getLast?_append_of_ne_nil _ hne]

/-- Double quotes around a text hide its brackets and separators. -/
theorem quote (h : ∀ c ∈ w, c ≠ '"' ∧ c ≠ '\\') : IsPart sep ('"' :: (w ++ ['"'])) := by
  have hinside : ∀ s : Scan, s.awaited = [] → s.quoted = true → s.previous ≠ some '\\' →
      s.over sep (w ++ ['"']) = some ⟨[], false, some '"'⟩ := by
    induction w with
    | nil =>
      intro s hs hq hp
      have hquote : s.isQuote '"' = true := by simp [Scan.isQuote, hp]
      refine Scan.over_cons_eq_some.2 ⟨by simp [Scan.separates, hquote], _, ?_, rfl⟩
      simp [Scan.step, hquote, hs, hq]
    | cons c cs ih =>
      intro s hs hq hp
      obtain ⟨hc, hbackslash⟩ := h c List.mem_cons_self
      have hquote : s.isQuote c = false := by simp [Scan.isQuote, hc]
      have hstep : s.step c = some ⟨s.awaited, true, some c⟩ :=
        Scan.step_eq_some_iff.2 (.inside hquote hq)
      refine Scan.over_cons_eq_some.2 ⟨by simp [Scan.separates, Scan.atTop, hq], _, hstep, ?_⟩
      exact ih (fun d hd => h d (List.mem_cons_of_mem _ hd)) _ hs rfl (by simpa using hbackslash)
  have hpast : Scan.start.past ('"' :: (w ++ ['"'])) = ⟨[], false, some '"'⟩ := by
    simp [Scan.past, Scan.start, List.getLast?_cons]
  have hopen : Scan.start.step '"' = some ⟨[], true, some '"'⟩ := rfl
  rw [IsPart, hpast]
  exact Scan.over_cons_eq_some.2
    ⟨by simp [Scan.separates, Scan.isQuote, Scan.start], _, hopen, hinside _ rfl rfl (by decide)⟩

end IsPart

theorem Balanced.notMem_quote {p : Char → Prop} (h : Balanced p w) : '"' ∉ w := by
  induction h with
  | nil => exact List.not_mem_nil
  | plain hc _ _ ih => simp [ih, Ne.symm hc.notQuote]
  | wrap ho _ _ ihinner ih =>
    simp [ihinner, ih, Ne.symm (ne_quote_of_closer? ho), Ne.symm (closer_ne_quote ho)]

/-- A balanced text is a part if none of its characters outside of brackets separates. -/
theorem Balanced.isPart {p : Char → Prop} (h : Balanced p w) (hp : ∀ c, p c → sep c = false) :
    IsPart sep w := by
  have hhead {w : List Char} {p : Char → Prop} (hw : Balanced p w) : w.head? ≠ some '"' :=
    fun hquote => hw.notMem_quote (List.mem_of_mem_head? hquote)
  -- Brackets are open inside of a pair, whatever separates outside.
  induction h generalizing sep with
  | nil => exact .nil
  | @plain p c cs hc hpc hcs ih =>
    have hfirst : IsPart sep [c] := .of_plain (List.forall_mem_singleton.2 ⟨hc, hp c hpc⟩)
    exact hfirst.append (ih hp) fun hquote => absurd hquote (hhead hcs)
  | @wrap p o k inner cs ho _ hcs ihinner ih =>
    have htext : o :: (inner ++ k :: cs) = o :: (inner ++ [k]) ++ cs := by simp
    rw [htext]
    exact (IsPart.enclose ho (ihinner fun _ _ => rfl)).append (ih hp)
      fun hquote => absurd hquote (hhead hcs)

theorem Balanced.isPart_of_ne (h : Balanced (· ≠ c) w) : IsPart (· == c) w :=
  h.isPart fun _ hd => beq_eq_false_iff_ne.2 hd

theorem Balanced.isClosed {p : Char → Prop} (h : Balanced p w) : IsClosed w :=
  h.isPart fun _ _ => rfl

/-! ## Blanks around a text -/

theorem isPlain_of_isBlank (hc : isBlank c = true) : IsPlain c ∧ c ≠ '\\' := by
  refine ⟨isPlain_of_holds rfl hc, ?_⟩
  rintro rfl
  cases hc

/-- Blanks around a text neither open nor close anything. -/
theorem isClosed_of_trim (h : IsClosed (trim w)) : IsClosed w := by
  obtain ⟨a, b, ha, hb, hw⟩ := trim_append w
  have hblank {v : List Char} (hv : ∀ c ∈ v, isBlank c = true) : IsClosed v :=
    .of_plain fun c hc => ⟨(isPlain_of_isBlank (hv c hc)).1, rfl⟩
  have hleft : IsClosed (a ++ trim w) := by
    refine (hblank ha).append h fun _ hlast => ?_
    exact (isPlain_of_isBlank (ha _ (List.mem_of_getLast? hlast))).2 rfl
  rw [← hw]
  refine hleft.append (hblank hb) fun hquote => ?_
  exact absurd rfl (isPlain_of_isBlank (hb _ (List.mem_of_mem_head? hquote))).1.notQuote

/-! ## Splitting -/

variable {text rest : List Char} {budget : Option Nat} {i : Nat} {parts : List (List Char)}

/-- Splitting keeps a text in one part that the scan gets over. -/
theorem splitFrom_over (h : s.over sep w = some t) (i : Nat) :
    splitFrom text sep budget s i (w ++ rest) =
      (splitFrom text sep budget t (i + w.length) rest).map (prepend w) := by
  induction w generalizing s i with
  | nil =>
    cases h
    cases hrest : splitFrom text sep budget t i rest <;> simp [hrest, Except.map, prepend]
  | cons c cs ih =>
    obtain ⟨hsep, u, hstep, hover⟩ := Scan.over_cons_eq_some.1 h
    rw [List.cons_append, splitFrom_keep hstep hsep, ih hover, map_map, List.length_cons,
      Nat.add_assoc, Nat.add_comm 1]
    rfl

theorem IsPart.split (h : IsPart sep w) : Brackets.split sep budget w = .ok [w] := by
  have hend : (Scan.start.past w).atTop = true := rfl
  have hsplit : splitFrom w sep budget .start 0 (w ++ []) = .ok [w] := by
    rw [splitFrom_over h, splitFrom, if_pos hend]
    simp [Except.map]
  rwa [List.append_nil] at hsplit

theorem Scan.sep_of_separates (h : s.separates sep c = true) : sep c = true :=
  (Bool.and_eq_true_iff.1 h).2

/-- Splitting leaves one part at least. -/
theorem ne_nil_of_splitFrom (h : splitFrom text sep budget s i cs = .ok parts) : parts ≠ [] := by
  have htotal := total_splitFrom h
  rintro rfl
  simp at htotal

theorem flatten_consFirst (c : Char) (ps : List (List Char)) :
    (consFirst c ps).flatten = c :: ps.flatten := by
  cases ps <;> rfl

/-- The parts of a text are what is left of it without some separators. -/
theorem flatten_sublist_of_splitFrom (h : splitFrom text sep budget s i cs = .ok parts) :
    parts.flatten.Sublist cs := by
  induction cs generalizing s i budget parts with
  | nil =>
    unfold splitFrom at h
    split at h
    · cases h
      exact .slnil
    · cases h
  | cons c cs ih =>
    unfold splitFrom at h
    split at h
    · cases h
    · split at h <;> obtain ⟨more, hmore, rfl⟩ := map_eq_ok.1 h
      · exact (ih hmore).cons c
      · rw [flatten_consFirst]
        exact (ih hmore).cons_cons c

theorem mem_of_mem_split (h : Brackets.split sep budget w = .ok parts) (hv : v ∈ parts)
    (hc : c ∈ v) : c ∈ w :=
  (flatten_sublist_of_splitFrom h).mem (List.mem_flatten.2 ⟨v, hv, hc⟩)

/-- No character but the separators is left out. -/
theorem mem_flatten_of_splitFrom (h : splitFrom text sep budget s i cs = .ok parts) (hc : c ∈ cs)
    (hsep : sep c = false) : c ∈ parts.flatten := by
  induction cs generalizing s i budget parts with
  | nil => cases hc
  | cons d ds ih =>
    unfold splitFrom at h
    split at h
    · cases h
    · split at h <;> obtain ⟨more, hmore, rfl⟩ := map_eq_ok.1 h
      · rename_i hcut
        have hne : c ≠ d := by
          rintro rfl
          simp [Scan.separates, hsep] at hcut
        rw [List.flatten_cons, List.nil_append]
        exact ih hmore ((List.mem_cons.1 hc).resolve_left hne)
      · rw [flatten_consFirst]
        exact List.mem_cons.2 ((List.mem_cons.1 hc).imp_right (ih hmore))

/-- A text that is split leaves nothing open. Where it was not cut, none of its characters
separates. -/
theorem over_of_splitFrom (sep' : Char → Bool)
    (h : splitFrom text sep budget s i cs = .ok parts)
    (hsep : ∀ c, sep' c = true → sep c = true ∧ budget = none ∧ parts.length ≤ 1) :
    ∃ t, s.over sep' cs = some t ∧ t.atTop = true := by
  induction cs generalizing s i budget parts with
  | nil =>
    unfold splitFrom at h
    split at h
    · exact ⟨s, rfl, ‹_›⟩
    · cases h
  | cons c cs ih =>
    unfold splitFrom at h
    split at h
    · cases h
    · rename_i u hstep
      split at h <;> obtain ⟨more, hmore, rfl⟩ := map_eq_ok.1 h
      · -- The text was cut here, so that nothing counts as a separator any more.
        have hnone (d : Char) : sep' d = false := by
          rw [Bool.eq_false_iff]
          intro hd
          have hlength := (hsep d hd).2.2
          have hpos := List.length_pos_iff.2 (ne_nil_of_splitFrom hmore)
          rw [List.length_cons] at hlength
          omega
        obtain ⟨t, hover, htop⟩ := ih hmore (fun d hd => by simp [hnone d] at hd)
        refine ⟨t, Scan.over_cons_eq_some.2 ⟨?_, u, hstep, hover⟩, htop⟩
        simp [Scan.separates, hnone c]
      · rename_i hkeep
        rw [length_consFirst (ne_nil_of_splitFrom hmore)] at hsep
        obtain ⟨t, hover, htop⟩ := ih hmore hsep
        refine ⟨t, Scan.over_cons_eq_some.2 ⟨?_, u, hstep, hover⟩, htop⟩
        cases hc : sep' c with
        | false => simp [Scan.separates, hc]
        | true =>
          obtain ⟨hc', rfl, -⟩ := hsep c hc
          simpa [Scan.separates, hc, hc'] using hkeep

theorem exists_splitFrom (h : s.over (fun _ => false) cs = some t) (htop : t.atTop = true) :
    ∃ parts, splitFrom text sep budget s i cs = .ok parts := by
  induction cs generalizing s i budget with
  | nil =>
    cases h
    exact ⟨[[]], by rw [splitFrom, if_pos htop]⟩
  | cons c cs ih =>
    obtain ⟨-, u, hstep, hrest⟩ := Scan.over_cons_eq_some.1 h
    rw [splitFrom, hstep]
    dsimp only
    split
    · have hparts : ∃ parts, splitFrom text sep (budget.map (· - 1)) u (i + 1) cs = .ok parts :=
        ih hrest
      obtain ⟨parts, hparts⟩ := hparts
      exact ⟨[] :: parts, map_eq_ok.2 ⟨parts, hparts, rfl⟩⟩
    · have hparts : ∃ parts, splitFrom text sep budget u (i + 1) cs = .ok parts := ih hrest
      obtain ⟨parts, hparts⟩ := hparts
      exact ⟨consFirst c parts, map_eq_ok.2 ⟨parts, hparts, rfl⟩⟩

theorem isPart_of_over (h : Scan.start.over sep w = some t) (htop : t.atTop = true) :
    IsPart sep w := by
  simp only [Scan.atTop, Bool.and_eq_true, List.isEmpty_iff, Bool.not_eq_true'] at htop
  rw [IsPart, ← Scan.eq_past h htop.1 htop.2]
  exact h

/-- The texts that can be split, at whatever separators. -/
theorem isClosed_iff : IsClosed w ↔ ∃ parts, Brackets.split sep budget w = .ok parts := by
  constructor
  · exact fun h => exists_splitFrom h rfl
  · rintro ⟨parts, hparts⟩
    obtain ⟨t, hover, htop⟩ := over_of_splitFrom (fun _ => false) hparts nofun
    exact isPart_of_over hover htop

theorem isPart_of_split (h : Brackets.split sep none w = .ok parts) (hlength : parts.length ≤ 1) :
    IsPart sep w := by
  obtain ⟨t, hover, htop⟩ := over_of_splitFrom sep h fun c hc => ⟨hc, rfl, hlength⟩
  exact isPart_of_over hover htop

/-- Splitting undoes joining, for parts without separators outside of brackets and quotes. -/
theorem splitFrom_of_parts {ws : List (List Char)} (hc : IsPlain c) (hbackslash : c ≠ '\\')
    (hsep : sep c = true) (hne : ws ≠ []) (hws : ∀ w ∈ ws, IsPart sep w) {s : Scan}
    (hq : s.quoted = false) (htop : s.awaited = []) (hp : s.previous ≠ some '\\') (i : Nat) :
    splitFrom text sep none s i ([c].intercalate ws) = .ok ws := by
  induction ws generalizing s i with
  | nil => exact absurd rfl hne
  | cons w ws ih =>
    have hw : s.over sep w = some (s.past w) :=
      (hws w List.mem_cons_self).over_eq hq (fun _ => hp) (.inr fun _ h => h)
    cases ws with
    | nil =>
      have hend : (s.past w).atTop = true := by simp [Scan.atTop, hq, htop]
      have hjoin : [c].intercalate [w] = w ++ [] := by simp
      rw [hjoin, splitFrom_over hw, splitFrom, if_pos hend]
      simp [Except.map]
    | cons v vs =>
      have hjoin : [c].intercalate (w :: v :: vs) = w ++ c :: [c].intercalate (v :: vs) := by
        rw [List.intercalate_cons_cons, List.append_assoc, List.singleton_append]
      have hrest := ih (s := ⟨[], false, some c⟩) (List.cons_ne_nil v vs)
        (fun u hu => hws u (List.mem_cons_of_mem _ hu)) rfl rfl (by simpa using hbackslash)
        (i + w.length + 1)
      rw [hjoin, splitFrom_over hw, splitFrom_separator hc hsep (by simpa using hq)
        (by simpa using htop), hrest]
      simp [Except.map]

theorem split_of_parts {ws : List (List Char)} (hc : IsPlain c) (hbackslash : c ≠ '\\')
    (hsep : sep c = true) (hne : ws ≠ []) (hws : ∀ w ∈ ws, IsPart sep w) :
    Brackets.split sep none ([c].intercalate ws) = .ok ws :=
  splitFrom_of_parts hc hbackslash hsep hne hws (s := .start) rfl rfl nofun 0

/-! ## Splitting at every separator -/

theorem splitOn_eq (sep : Char) (cs : List Char) : splitOn sep cs = List.splitOn sep cs := by
  induction cs with
  | nil => rfl
  | cons c cs ih =>
    rw [splitOn, ih, List.splitOn_cons_eq_if_modifyHead]
    split
    · rfl
    · have hne := List.splitOn_ne_nil sep cs
      cases hparts : List.splitOn sep cs with
      | nil => exact absurd hparts hne
      | cons p ps => rfl

theorem intercalate_splitOn (c : Char) (w : List Char) : [c].intercalate (splitOn c w) = w := by
  rw [splitOn_eq, List.intercalate_splitOn]

/-- Splitting leaves out the separators and nothing else. -/
theorem mem_flatten_splitOn {sep : Char} : c ∈ (splitOn sep w).flatten ↔ c ∈ w ∧ c ≠ sep := by
  induction w with
  | nil => simp [splitOn]
  | cons d ds ih =>
    unfold splitOn
    split
    · rename_i hd
      obtain rfl : d = sep := beq_iff_eq.1 hd
      rw [List.flatten_cons, List.nil_append, ih, List.mem_cons, or_and_right]
      exact (or_iff_right fun h => h.2 h.1).symm
    · rename_i hd
      have hne : d ≠ sep := fun h => hd (beq_iff_eq.2 h)
      rw [flatten_consFirst, List.mem_cons, List.mem_cons, ih, or_and_right]
      refine or_congr_left ⟨fun h => ⟨h, ?_⟩, And.left⟩
      rwa [h]

theorem notMem_of_mem_splitOn (h : v ∈ splitOn c w) : c ∉ v :=
  fun hc => (mem_flatten_splitOn.1 (List.mem_flatten.2 ⟨v, h, hc⟩)).2 rfl

theorem splitOn_ne_nil (sep : Char) (w : List Char) : splitOn sep w ≠ [] := by
  rw [splitOn_eq]
  exact List.splitOn_ne_nil sep w

theorem splitOnAtMost_none (sep : Char) (w : List Char) :
    splitOnAtMost sep none w = splitOn sep w := by
  induction w with
  | nil => rfl
  | cons c w ih => rw [splitOnAtMost, splitOn, ih]

/-- A text has no more parts than there are between all separators. -/
theorem length_le_of_splitFrom {sep : Char}
    (h : splitFrom text (· == sep) budget s i cs = .ok parts) :
    parts.length ≤ (splitOn sep cs).length := by
  induction cs generalizing s i budget parts with
  | nil =>
    unfold splitFrom at h
    split at h <;> cases h
    exact Nat.le_refl _
  | cons d ds ih =>
    unfold splitFrom at h
    unfold splitOn
    split at h
    · cases h
    · split at h <;> obtain ⟨more, hmore, rfl⟩ := map_eq_ok.1 h
      · rename_i hcut
        rw [if_pos (Scan.sep_of_separates (Bool.and_eq_true_iff.1 hcut).1)]
        exact Nat.succ_le_succ (ih hmore)
      · rw [length_consFirst (ne_nil_of_splitFrom hmore)]
        split
        · exact Nat.le_succ_of_le (ih hmore)
        · rw [length_consFirst (splitOn_ne_nil sep ds)]
          exact ih hmore

/-! ## Texts without quotes -/

/-- Texts that close the brackets `ks`, one after another, with balanced texts in between. -/
inductive Closes (p : Char → Prop) : List Char → List Char → Prop
  | nil {w : List Char} (hw : Balanced p w) : Closes p [] w
  | cons {k : Char} {ks v w : List Char} (hv : Balanced (fun _ => True) v)
      (hw : Closes p ks w) : Closes p (k :: ks) (v ++ k :: w)

namespace Closes

variable {p : Char → Prop}

theorem plain (hc : IsPlain c) (hp : ks = [] → p c) (h : Closes p ks w) : Closes p ks (c :: w) := by
  cases h with
  | nil hw => exact .nil (.plain hc (hp rfl) hw)
  | cons hv hw => exact .cons (.plain hc trivial hv) hw

theorem wrap {o k : Char} (ho : closer? o = some k) (hv : Balanced (fun _ => True) v)
    (h : Closes p ks w) : Closes p ks (o :: (v ++ k :: w)) := by
  cases h with
  | nil hw => exact .nil (.wrap ho hv hw)
  | @cons l ls x y hx hy =>
    have hpiece : Balanced (fun _ => True) (o :: (v ++ k :: x)) := .wrap ho hv hx
    simpa using Closes.cons (k := l) hpiece hy

end Closes

/-- Without quotes, the scan closes what is open by one bracket after another. -/
theorem closes_of_over (hquote : '"' ∉ w) (hq : s.quoted = false) (h : s.over sep w = some t)
    (ht : t.awaited = []) : Closes (sep · = false) s.awaited w := by
  induction w generalizing s with
  | nil =>
    cases h
    rw [ht]
    exact .nil .nil
  | cons c cs ih =>
    obtain ⟨hc, hcs⟩ := not_or.1 (mt List.mem_cons.2 hquote)
    obtain ⟨hsep, u, hstep, hover⟩ := Scan.over_cons_eq_some.1 h
    have hnotQuote : s.isQuote c = false := by simp [Scan.isQuote, Ne.symm hc]
    cases Scan.step_eq_some_iff.1 hstep with
    | quote hquote => simp [hnotQuote] at hquote
    | inside _ hinside => simp [hq] at hinside
    | @opener k _ _ ho =>
      -- What follows first closes this bracket.
      cases ih hcs rfl hover with
      | cons hv hw => exact .wrap ho hv hw
    | closer _ _ _ _ hs =>
      rw [hs]
      exact .cons (v := []) .nil (ih hcs rfl hover)
    | plain _ _ ho hk =>
      have hplain : IsPlain c := ⟨ho, hk, Ne.symm hc⟩
      have hrest := ih hcs rfl hover
      refine .plain hplain (fun hks => ?_) hrest
      simpa [Scan.separates, Scan.atTop, hks, hq, hnotQuote, ho, hk] using hsep

theorem IsPart.balanced (h : IsPart sep w) (hquote : '"' ∉ w) : Balanced (sep · = false) w := by
  cases closes_of_over hquote rfl h rfl with
  | nil hw => exact hw

end SceneBridge.Brackets
