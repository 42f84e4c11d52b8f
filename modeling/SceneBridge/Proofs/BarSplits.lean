import SceneBridge.Proofs.Memo
import SceneBridge.Proofs.TypeReadings

/-!
# Splitting at every bar

The naive reading splits a text at every bar, whatever stands around the bar. It comes to the same
as the other reading wherever no bar is hidden: a text that either of them can read leaves nothing
open, and such a text is cut at the same bars by both.
-/

namespace SceneBridge.Brackets

open Text

variable {s t : Scan} {c : Char} {v w cs : List Char}

/-! ## Texts without hidden bars -/

/-- Wherever the scan comes to a bar, it is outside of brackets and quotes. -/
def Scan.BarsOutside (s : Scan) (text : List Char) : Prop :=
  ∀ before after, text = before ++ '|' :: after →
    (s.over (fun _ => false) before).all Scan.atTop = true

instance (s : Scan) (text : List Char) : Decidable (s.BarsOutside text) :=
  decidable_of_iff
    (∀ i < text.length, text[i]? = some '|' →
      (s.over (fun _ => false) (text.take i)).all Scan.atTop = true) <| by
    constructor
    · rintro h before after rfl
      simpa using h before.length (by simp) (by simp)
    · intro h i hi hbar
      refine h (text.take i) (text.drop (i + 1)) ?_
      obtain ⟨_, hbar⟩ := List.getElem?_eq_some_iff.1 hbar
      rw [← hbar, List.getElem_cons_drop, List.take_append_drop]

namespace Scan.BarsOutside

theorem of_notMem (h : '|' ∉ w) : s.BarsOutside w := by
  rintro before after rfl
  simp at h

theorem head (h : s.BarsOutside ('|' :: cs)) : s.atTop = true :=
  h [] cs rfl

theorem tail (h : s.BarsOutside (c :: cs)) (hstep : s.step c = some t) : t.BarsOutside cs := by
  rintro before after rfl
  have hover := h (c :: before) after rfl
  rwa [Scan.over, Scan.separates, Bool.and_false, if_neg Bool.false_ne_true, hstep] at hover

theorem left (h : s.BarsOutside (v ++ w)) : s.BarsOutside v := by
  rintro before after rfl
  exact h before (after ++ w) (by simp)

/-- Blanks in front of a text make no difference. -/
theorem of_blanks (hv : ∀ c ∈ v, isBlank c = true) (h : Scan.start.BarsOutside (v ++ w)) :
    Scan.start.BarsOutside w := by
  rintro before after rfl
  have hfront : IsClosed v := .of_plain fun c hc => ⟨(isPlain_of_isBlank (hv c hc)).1, rfl⟩
  have hover := h (v ++ before) after (by simp)
  rw [Scan.over_append, hfront, Option.bind_some] at hover
  cases hbefore : Scan.start.over (fun _ => false) before with
  | none => rfl
  | some u =>
    -- A backslash is not a blank, so that no quote behind the blanks counts as escaped.
    have hprevious : (Scan.start.past v).previous ≠ some '\\' := by
      intro hlast
      have hmem : '\\' ∈ v := List.mem_of_getLast? (by simpa [Scan.past, Scan.start] using hlast)
      exact (isPlain_of_isBlank (hv _ hmem)).2 rfl
    have hstart : Scan.start.previous ≠ some '\\' := by decide
    obtain ⟨q, hsame⟩ :=
      Scan.exists_over_of_previous (s := .start) (fun _ => ⟨hstart, hprevious⟩) hbefore
    have hpast : (Scan.start.past v).over (fun _ => false) before = some ⟨u.awaited, u.quoted, q⟩ :=
      hsame
    rwa [hpast] at hover

theorem trim (h : Scan.start.BarsOutside w) : Scan.start.BarsOutside (trim w) := by
  obtain ⟨a, b, ha, -, hw⟩ := trim_append w
  rw [← hw] at h
  exact of_blanks ha h.left

/-- A closed text without hidden bars is cut at each of its bars. -/
theorem splitFrom_eq {text : List Char} (hover : s.over (fun _ => false) cs = some t)
    (htop : t.atTop = true) (h : s.BarsOutside cs) (i : Nat) :
    splitFrom text (· == '|') none s i cs = .ok (splitOn '|' cs) := by
  induction cs generalizing s i with
  | nil =>
    cases hover
    rw [splitFrom, if_pos htop, splitOn]
  | cons c cs ih =>
    obtain ⟨-, u, hstep, hrest⟩ := Scan.over_cons_eq_some.1 hover
    have hsplit := ih hrest (h.tail hstep) (i + 1)
    rw [splitFrom, hstep, splitOn]
    by_cases hc : c = '|'
    · subst hc
      have hseparates : s.separates (· == '|') '|' = true := by
        rw [Scan.separates, h.head]
        rfl
      simp [hseparates, hsplit, Except.map]
    · have hkeep : s.separates (· == '|') c = false := by simp [Scan.separates, hc]
      simp [hkeep, hsplit, Except.map, hc]

theorem split_eq (hw : IsClosed w) (h : Scan.start.BarsOutside w) :
    split (· == '|') none w = .ok (splitOn '|' w) :=
  splitFrom_eq hw rfl h 0

end Scan.BarsOutside

end SceneBridge.Brackets

namespace SceneBridge.TypeExpr

open Text Brackets

variable {naive naive' : Bool} {s w text : List Char} {f : Form} {t : TypeExpr}

/-! ## Forms of texts without hidden bars -/

theorem alternatives_eq (hs : IsClosed s) (hbars : Scan.start.BarsOutside s) :
    alternatives naive s = .ok (splitOn '|' s) := by
  cases naive with
  | false => exact hbars.split_eq hs
  | true => rfl

theorem formOf_congr_naive (hs : IsClosed s) (hbars : Scan.start.BarsOutside s) :
    formOf naive s = formOf naive' s := by
  simp only [formOf, alternatives_eq hs hbars]

/-- Where no bar is hidden, none is between brackets. -/
theorem notMem_of_encloses (hs : Encloses s w) (hw : IsClosed w)
    (hbars : Scan.start.BarsOutside s) : '|' ∉ w := by
  intro hbar
  obtain ⟨v, rest, rfl⟩ := List.append_of_mem hbar
  -- Up to the bar the scan gets through, with the bracket still open.
  have hall : Scan.start.over (fun _ => false) (v ++ '|' :: rest) = some _ := hw
  rw [Scan.over_append] at hall
  obtain ⟨u, hv, -⟩ := Option.bind_eq_some_iff.1 hall
  cases hs with
  | @mk before o k _ hbefore ho =>
    have hfront : IsClosed before := .of_plain fun c hc => ⟨hbefore c hc, rfl⟩
    have hbackslash : some o ≠ some '\\' := by
      rintro ⟨⟩
      cases ho
    obtain ⟨q, hinner⟩ := Scan.exists_over_of_previous (s := .start) (p := some o)
      (fun _ => ⟨nofun, hbackslash⟩) hv
    have hopen : (Scan.start.past before).step o = some ⟨[k], false, some o⟩ :=
      Scan.step_opener rfl ho
    have hunder : Scan.over (fun _ => false) ⟨[k], false, some o⟩ v =
        some ⟨u.awaited ++ [k], u.quoted, q⟩ :=
      Scan.over_under (List.cons_ne_nil k []) hinner
    have hover : Scan.start.over (fun _ => false) (before ++ o :: v) =
        some ⟨u.awaited ++ [k], u.quoted, q⟩ := by
      rw [Scan.over_append, hfront, Option.bind_some]
      exact Scan.over_cons_eq_some.2 ⟨Bool.and_false _, _, hopen, hunder⟩
    have htop := hbars (before ++ o :: v) (rest ++ [k]) (by simp)
    rw [hover] at htop
    simp [Scan.atTop] at htop

/-- The texts inside of a form. -/
def Form.texts : Form → List (List Char)
  | .group t => [t]
  | .array t => [t]
  | .union ts => ts
  | .generic _ ts => ts
  | .record fs => fs.map Prod.snd
  | .scalar _ => []

theorem mem_of_cutAt? {sep c : Char} {l r : List Char} (h : cutAt? sep s = some (l, r))
    (hc : c ∈ r) : c ∈ s := by
  induction s generalizing l with
  | nil => cases h
  | cons d ds ih =>
    unfold cutAt? at h
    split at h
    · cases h
      exact List.mem_cons_of_mem _ hc
    · obtain ⟨⟨l', r'⟩, hcut, heq⟩ := Option.map_eq_some_iff.1 h
      cases heq
      exact List.mem_cons_of_mem _ (ih hcut)

theorem mem_of_fieldOf {pair : List Char} {field : List Char × List Char} {c : Char}
    (h : fieldOf pair = .ok field) (hc : c ∈ field.2) : c ∈ pair := by
  unfold fieldOf at h
  split at h
  · cases h
  · rename_i hcut
    dsimp only at h
    split at h
    · cases h
    · cases h
      exact mem_of_cutAt? hcut hc

/-- Where no bar is hidden, none is hidden in the texts inside. -/
theorem barsOutside_texts (h : HasForm naive s f) (hclosed : ∀ w ∈ f.texts, IsClosed w)
    (hbars : Scan.start.BarsOutside s) : ∀ w ∈ f.texts, Scan.start.BarsOutside w := by
  cases h with
  | group hs =>
    refine List.forall_mem_singleton.2 (.of_notMem ?_)
    exact notMem_of_encloses hs (hclosed _ List.mem_cons_self) hbars
  | array hs =>
    refine List.forall_mem_singleton.2 (.of_notMem ?_)
    exact notMem_of_encloses hs (hclosed _ List.mem_cons_self) hbars
  | union hparts hlength =>
    intro w hw
    rw [alternatives_eq (isClosed_of_alternatives hparts hclosed) hbars] at hparts
    obtain rfl := Except.ok.inj hparts
    exact .of_notMem (notMem_of_mem_splitOn hw)
  | marked hs =>
    -- The one text inside that may have bars is what stands in front of the mark.
    refine List.forall_mem_singleton.2 ?_
    rw [hs] at hbars
    exact hbars.left
  | generic hs _ hparts =>
    have hbar := notMem_of_encloses hs (isClosed_iff.2 ⟨_, hparts⟩) hbars
    exact fun w hw => .of_notMem fun hc => hbar (mem_of_mem_split hparts hw hc)
  | empty => exact nofun
  | record hs hpairs hfields =>
    have hbar := notMem_of_encloses hs (isClosed_iff.2 ⟨_, hpairs⟩) hbars
    intro w hw
    obtain ⟨field, hfield, rfl⟩ := List.mem_map.1 hw
    obtain ⟨i, hi, rfl⟩ := List.getElem_of_mem hfield
    have hpair := hfields.get (hfields.length_eq ▸ hi) hi
    refine .of_notMem fun hc => hbar ?_
    exact mem_of_mem_split hpairs (List.getElem_mem _) (mem_of_fieldOf hpair hc)
  | scalar => exact nofun

/-! ## Readings of texts without hidden bars -/

/-- The texts inside of a text that is read leave nothing open either. -/
theorem Reads.isClosed_texts (h : Reads naive text t)
    (hform : formOf naive (trim text) = .ok f) : ∀ w ∈ f.texts, IsClosed w := by
  cases h with
  | group hform' hinner =>
    obtain rfl := Except.ok.inj (hform'.symm.trans hform)
    exact List.forall_mem_singleton.2 hinner.isClosed
  | array hform' helement =>
    obtain rfl := Except.ok.inj (hform'.symm.trans hform)
    exact List.forall_mem_singleton.2 helement.isClosed
  | union hform' hlength hparts =>
    obtain rfl := Except.ok.inj (hform'.symm.trans hform)
    exact forall_left_of_zip hlength fun q hq => (hparts q hq).isClosed
  | generic hform' hlength hparts =>
    obtain rfl := Except.ok.inj (hform'.symm.trans hform)
    exact forall_left_of_zip hlength fun q hq => (hparts q hq).isClosed
  | @record _ texts _ hform' hlength _ hfields =>
    obtain rfl := Except.ok.inj (hform'.symm.trans hform)
    have hclosed : ∀ f ∈ texts, IsClosed f.2 :=
      forall_left_of_zip hlength fun q hq => (hfields q hq).isClosed
    exact List.forall_mem_map.2 hclosed
  | scalar hform' =>
    obtain rfl := Except.ok.inj (hform'.symm.trans hform)
    exact nofun

/-- Both ways of splitting give a text without hidden bars the same form, and no bar is hidden
further inside. -/
theorem Reads.form_of_barsOutside (h : Reads naive text t)
    (hform : formOf naive (trim text) = .ok f) (hbars : Scan.start.BarsOutside text) :
    formOf naive' (trim text) = .ok f ∧ ∀ w ∈ f.texts, Scan.start.BarsOutside w := by
  constructor
  · rw [← hform]
    exact formOf_congr_naive h.isClosed_trim hbars.trim
  · exact barsOutside_texts (hasForm_of_formOf hform) (h.isClosed_texts hform) hbars.trim

/-- A text without hidden bars reads the same in both ways. -/
theorem Reads.of_barsOutside (h : Reads naive text t) (hbars : Scan.start.BarsOutside text) :
    Reads naive' text t := by
  induction h with
  | group hform hinner ih =>
    obtain ⟨hsame, htexts⟩ := (Reads.group hform hinner).form_of_barsOutside hform hbars
    exact .group hsame (ih (htexts _ List.mem_cons_self))
  | array hform helement ih =>
    obtain ⟨hsame, htexts⟩ := (Reads.array hform helement).form_of_barsOutside hform hbars
    exact .array hsame (ih (htexts _ List.mem_cons_self))
  | union hform hlength hparts ih =>
    obtain ⟨hsame, htexts⟩ := (Reads.union hform hlength hparts).form_of_barsOutside hform hbars
    refine .union hsame hlength fun q hq => ?_
    exact ih q hq (htexts q.1 (List.of_mem_zip hq).1)
  | generic hform hlength hparts ih =>
    obtain ⟨hsame, htexts⟩ := (Reads.generic hform hlength hparts).form_of_barsOutside hform hbars
    refine .generic hsame hlength fun q hq => ?_
    exact ih q hq (htexts q.1 (List.of_mem_zip hq).1)
  | record hform hlength hnames hfields ih =>
    obtain ⟨hsame, htexts⟩ :=
      (Reads.record hform hlength hnames hfields).form_of_barsOutside hform hbars
    refine .record hsame hlength hnames fun q hq => ?_
    exact ih q hq (htexts q.1.2 (List.mem_map_of_mem (List.of_mem_zip hq).1))
  | scalar hform => exact .scalar ((Reads.scalar hform).form_of_barsOutside hform hbars).1

theorem parse_congr_naive (h : IsClosed text → Scan.start.BarsOutside text)
    (hparse : parse naive text = .ok t) : parse naive' text = .ok t := by
  have hread := reads_of_parse hparse
  exact (hread.of_barsOutside (h hread.isClosed)).parse

/-- The two ways of splitting come to the same for every text without hidden bars, whatever was read
before. A text that is not closed is read as a name in both, so that nothing is asked of it. -/
theorem read_eq_of_barsOutside {m m' : Memo} (hm : m.Reached) (hm' : m'.Reached)
    (limit limit' : Nat) {text : String}
    (h : IsClosed text.toList → Scan.start.BarsOutside text.toList) :
    (m.read limit true text).1 = (m'.read limit' false text).1 := by
  rw [hm.isFaithful.read_fst, hm'.isFaithful.read_fst, ofText, ofText]
  cases htrue : parse true text.toList with
  | ok t =>
    have hfalse : parse false text.toList = .ok t := parse_congr_naive h htrue
    rw [hfalse]
  | error e =>
    cases hfalse : parse false text.toList with
    | ok t =>
      rw [parse_congr_naive h hfalse] at htrue
      cases htrue
    | error e' => rfl

theorem read_eq_of_bars_between :
    ((Memo.empty.read 8 false "a").2.read 4 true "Map.<\"<\", a>|\x7bk: b\x7d[] | c").1 =
      (Memo.empty.read 8 false "Map.<\"<\", a>|\x7bk: b\x7d[] | c").1 := by
  have hbars : Scan.start.BarsOutside "Map.<\"<\", a>|\x7bk: b\x7d[] | c".toList := by decide
  exact read_eq_of_barsOutside (.read .empty 8 false "a") .empty 4 8 fun _ => hbars

end SceneBridge.TypeExpr
