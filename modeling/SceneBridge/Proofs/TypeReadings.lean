import Mathlib.Data.List.Forall2
import SceneBridge.Proofs.TypeForms

/-!
# Readings of type texts

What a text that has a form looks like, and from that how a text and the texts inside of it are
read. A text that can be read at all leaves neither a bracket nor a quote open.
-/

namespace SceneBridge.TypeExpr

open Text Brackets

variable {naive : Bool} {s w rest text : List Char}

/-! ## Enclosed texts -/

/-- The text ends with a bracket that closes the first one in it, and `w` stands between the two. -/
inductive Encloses : List Char → List Char → Prop
  | mk {before : List Char} {o k : Char} {w : List Char} (hbefore : ∀ c ∈ before, IsPlain c)
      (ho : closer? o = some k) : Encloses (before ++ o :: (w ++ [k])) w

theorem isClosed_of_encloses (hs : Encloses s w) (hw : IsClosed w) : IsClosed s := by
  cases hs with
  | @mk before o k _ hbefore ho =>
    have hfront : IsClosed before := .of_plain fun c hc => ⟨hbefore c hc, rfl⟩
    refine hfront.append (.enclose ho hw) fun hquote => ?_
    exact absurd (Option.some.inj hquote) (ne_quote_of_closer? ho)

/-- The search for the end of some brackets comes to that of the outermost. -/
theorem getElem?_of_closeFrom {ks cs : List Char} {k : Char} {i j : Nat}
    (h : closeFrom (ks ++ [k]) i cs = some j) : ∃ d, j = i + d ∧ cs[d]? = some k := by
  -- The brackets `ks` were opened since, and are closed before `k`.
  induction cs generalizing ks i with
  | nil => cases h
  | cons c cs ih =>
    have hnext (ls : List Char) (hrest : closeFrom (ls ++ [k]) (i + 1) cs = some j) :
        ∃ d, j = i + d ∧ (c :: cs)[d]? = some k := by
      obtain ⟨d, rfl, hd⟩ := ih hrest
      exact ⟨d + 1, by omega, by simpa using hd⟩
    unfold closeFrom at h
    split at h
    · exact hnext (_ :: ks) h
    · split at h
      · split at h
        · rename_i l ls hls
          split at h
          · rename_i heq
            obtain rfl := eq_of_beq heq
            cases ks with
            | nil =>
              obtain ⟨rfl, rfl⟩ := List.cons_eq_cons.1 hls
              cases h
              exact ⟨0, rfl, rfl⟩
            | cons m ks =>
              obtain ⟨rfl, rfl⟩ := List.cons_eq_cons.1 hls
              rw [if_neg (by simp)] at h
              exact hnext ks h
          · cases h
        · cases h
      · exact hnext ks h

/-- A bracket that is closed by the last character encloses what stands between. -/
theorem encloses_of_wraps (before : List Char) {o k : Char} (hbefore : ∀ c ∈ before, IsPlain c)
    (ho : closer? o = some k) (h : wraps (before ++ o :: rest) before.length = true) :
    Encloses (before ++ o :: rest) (inside (before ++ o :: rest) before.length) := by
  have hclose : closeFrom ([] ++ [k]) (before.length + 1) rest =
      some ((before ++ o :: rest).length - 1) := by
    rw [wraps, beq_iff_eq, matchingClose?, List.drop_left, closeFrom_opener ho] at h
    exact h
  obtain ⟨d, hd, hk⟩ := getElem?_of_closeFrom hclose
  have hlast : rest.getLast? = some k := by
    rw [List.getLast?_eq_getElem?, ← hk]
    congr 1
    simp only [List.length_append, List.length_cons] at hd
    omega
  have hinside : inside (before ++ o :: rest) before.length = rest.dropLast := by
    rw [inside, ← List.drop_drop, List.drop_left, List.drop_one, List.tail_cons]
  have hrest : rest = rest.dropLast ++ [k] := (List.dropLast_append_getLast? k hlast).symm
  rw [hinside]
  conv => lhs; rw [hrest]
  exact .mk hbefore ho

theorem exists_eq_cons {c : Char} (h : (s.head? == some c) = true) : ∃ rest, s = c :: rest :=
  ⟨_, List.eq_cons_of_mem_head? (Option.mem_def.2 (eq_of_beq h))⟩

/-! ## Names in front of brackets -/

/-- What stands in front of a first opening angle bracket. -/
structure IsHeaded (s name blanks rest : List Char) : Prop where
  eq : s = name ++ blanks ++ '<' :: rest
  starts : name.head?.any isNameStart = true
  chars : ∀ c ∈ name, isNameChar c = true
  blank : ∀ c ∈ blanks, isBlank c = true

theorem IsHeaded.isPlain {name blanks : List Char} (h : IsHeaded s name blanks rest) :
    ∀ c ∈ name ++ blanks, IsPlain c := by
  intro c hc
  obtain hc | hc := List.mem_append.1 hc
  · exact (isPlain_of_isNameChar (h.chars c hc)).1
  · exact (isPlain_of_isBlank (h.blank c hc)).1

theorem isHeaded_of_genericHead? {name : List Char} {i : Nat}
    (h : genericHead? s = some (name, i)) :
    ∃ blanks rest, IsHeaded s name blanks rest ∧ i = (name ++ blanks).length := by
  cases s with
  | nil => cases h
  | cons c cs =>
    rw [genericHead?] at h
    dsimp only at h
    split at h
    · rename_i hc
      split at h
      · rename_i hopen
        obtain ⟨rfl, rfl⟩ := Prod.mk.inj (Option.some.inj h)
        obtain ⟨rest, hrest⟩ := exists_eq_cons hopen
        have htext : c :: cs = (c :: cs.takeWhile isNameChar) ++
            (cs.dropWhile isNameChar).takeWhile isBlank ++ '<' :: rest := by
          rw [← hrest, List.append_assoc, List.takeWhile_append_dropWhile, List.cons_append,
            List.takeWhile_append_dropWhile]
        refine ⟨_, rest, ⟨htext, by simpa using hc, fun d hd => ?_,
          fun d hd => List.mem_takeWhile_imp hd⟩, (List.length_append).symm⟩
        obtain rfl | hd := List.mem_cons.1 hd
        · exact isNameChar_of_isNameStart hc
        · exact List.mem_takeWhile_imp hd
      · cases h
    · cases h

/-! ## What a form says of a text -/

/-- What a text looks like that has a form. -/
inductive HasForm (naive : Bool) : List Char → Form → Prop
  | group {s w : List Char} (hs : Encloses s w) : HasForm naive s (.group w)
  | array {s w : List Char} (hs : Encloses s w) : HasForm naive s (.array w)
  | union {s : List Char} {parts : List (List Char)} (hparts : alternatives naive s = .ok parts)
      (hlength : 2 ≤ parts.length) : HasForm naive s (.union parts)
  | marked {s w : List Char} (hs : s = w ++ "[]".toList) : HasForm naive s (.array w)
  | generic {s w name : List Char} {parts : List (List Char)} (hs : Encloses s w)
      (hname : name.head?.any isNameStart = true) (hparts : split (· == ',') none w = .ok parts) :
      HasForm naive s (.generic (trimRightBy (· == '.') name) parts)
  | empty {s w : List Char} (hs : Encloses s w) (hw : trim w = []) : HasForm naive s (.record [])
  | record {s w : List Char} {pairs : List (List Char)} {fields : List (List Char × List Char)}
      (hs : Encloses s w) (hpairs : split (· == ',') none w = .ok pairs)
      (hfields : List.Forall₂ (fun pair f => fieldOf pair = .ok f) pairs fields) :
      HasForm naive s (.record fields)
  | scalar {s : List Char} (hne : s ≠ []) (hs : IsPart (· == '|') s) : HasForm naive s (.scalar s)

theorem hasForm_record {f : Form} (hs : Encloses s w) (h : recordForm w = .ok f) :
    HasForm naive s f := by
  unfold recordForm at h
  split at h
  · rename_i hw
    cases h
    exact .empty hs (List.isEmpty_iff.1 hw)
  · obtain ⟨pairs, hpairs, h⟩ := bind_eq_ok.1 h
    obtain ⟨fields, hfields, h⟩ := bind_eq_ok.1 h
    cases h
    exact .record hs hpairs (mapM_eq_ok.1 hfields)

/-- A closed text that is not split at bars has none outside of brackets and quotes. -/
theorem isPart_of_alternatives {parts : List (List Char)} (hs : IsClosed s)
    (hparts : alternatives naive s = .ok parts) (hlength : ¬ parts.length > 1) :
    IsPart (· == '|') s := by
  cases naive with
  | false => exact isPart_of_split hparts (Nat.le_of_not_lt hlength)
  | true =>
    -- The only part is the whole text, so that no bar is in it.
    obtain rfl : splitOn '|' s = parts := Except.ok.inj hparts
    refine .of_notMem hs fun hbar => ?_
    cases hsplit : splitOn '|' s with
    | nil =>
      have htotal := total_splitOn '|' s
      simp [hsplit] at htotal
    | cons p ps =>
      rw [hsplit, List.length_cons] at hlength
      obtain rfl : ps = [] := List.length_eq_zero_iff.1 (by omega)
      have hjoin := intercalate_splitOn '|' s
      rw [hsplit, List.intercalate_singleton] at hjoin
      have hp : p ∈ splitOn '|' s := by simp [hsplit]
      exact notMem_of_mem_splitOn hp (hjoin ▸ hbar)

theorem hasForm_of_innerForm {f : Form} {parts : List (List Char)}
    (hparts : alternatives naive s = .ok parts) (hlength : ¬ parts.length > 1) (hne : s ≠ [])
    (h : innerForm s = .ok f) : HasForm naive s f := by
  have hscalar (h : (split (· == '|') none s).map (fun _ => Form.scalar s) = .ok f) :
      HasForm naive s f := by
    obtain ⟨ps, hps, rfl⟩ := map_eq_ok.1 h
    exact .scalar hne (isPart_of_alternatives (isClosed_iff.2 ⟨ps, hps⟩) hparts hlength)
  -- Both what has no name in front of an angle bracket and what goes on behind the closing one
  -- is tried as a record and then taken for a name.
  have hlast (h : (if s.head? == some '\x7b' && wraps s 0 then recordForm (inside s 0)
      else (split (· == '|') none s).map fun _ => .scalar s) = .ok f) : HasForm naive s f := by
    split at h
    · rename_i hwraps
      obtain ⟨hhead, hwraps⟩ := Bool.and_eq_true_iff.1 hwraps
      obtain ⟨rest, rfl⟩ := exists_eq_cons hhead
      exact hasForm_record (encloses_of_wraps [] nofun rfl hwraps) h
    · exact hscalar h
  unfold innerForm at h
  split at h
  · rename_i hmark
    cases h
    obtain ⟨w, rfl⟩ := List.isSuffixOf_iff_suffix.1 (Bool.and_eq_true_iff.1 hmark).1
    rw [take_marked]
    exact .marked rfl
  · split at h
    · rename_i name i hname
      split at h
      · rename_i hwraps
        obtain ⟨ps, hps, rfl⟩ := map_eq_ok.1 h
        obtain ⟨blanks, rest, hheaded, rfl⟩ := isHeaded_of_genericHead? hname
        have hs := hheaded.eq
        subst hs
        have hangle := (Bool.and_eq_true_iff.1 hwraps).2
        exact .generic (encloses_of_wraps (name ++ blanks) hheaded.isPlain rfl hangle)
          hheaded.starts hps
      · exact hlast h
    · exact hlast h

/-- A text that has a form looks like it. -/
theorem hasForm_of_formOf {f : Form} (h : formOf naive s = .ok f) : HasForm naive s f := by
  have hwrapped (before : List Char) (hbefore : before.all isNameChar = true)
      (h : ((before ++ ['<']).isPrefixOf s && wraps s before.length) = true) :
      Encloses s (inside s before.length) := by
    obtain ⟨hfront, hwraps⟩ := Bool.and_eq_true_iff.1 h
    obtain ⟨rest, rfl⟩ := List.isPrefixOf_iff_prefix.1 hfront
    rw [List.append_assoc, List.singleton_append] at hwraps ⊢
    exact encloses_of_wraps before (fun c hc => (isPlain_of_all hbefore c hc).1) rfl hwraps
  unfold formOf at h
  split at h
  · cases h
  · rename_i hne
    split at h
    · rename_i hgroup
      cases h
      obtain ⟨hhead, hwraps⟩ := Bool.and_eq_true_iff.1 hgroup
      obtain ⟨rest, rfl⟩ := exists_eq_cons hhead
      exact .group (encloses_of_wraps [] nofun rfl hwraps)
    · split at h
      · rename_i hdotted
        cases h
        exact .array (hwrapped "Array.".toList (by decide) hdotted)
      · split at h
        · rename_i harray
          cases h
          exact .array (hwrapped "Array".toList (by decide) harray)
        · obtain ⟨parts, hparts, h⟩ := bind_eq_ok.1 h
          split at h
          · rename_i hlength
            cases h
            exact .union hparts hlength
          · rename_i hlength
            exact hasForm_of_innerForm hparts hlength (by simpa using hne) h

/-! ## The judgement of reading -/

/-- The text reads as the type: its form is that of the type, and the texts inside read as the parts
of the type. -/
inductive Reads (naive : Bool) : List Char → TypeExpr → Prop
  | group {text inner : List Char} {t : TypeExpr}
      (hform : formOf naive (trim text) = .ok (.group inner)) (hinner : Reads naive inner t) :
      Reads naive text t
  | array {text element : List Char} {t : TypeExpr}
      (hform : formOf naive (trim text) = .ok (.array element)) (helement : Reads naive element t) :
      Reads naive text (.array t)
  | union {text : List Char} {parts : List (List Char)} {ts : List TypeExpr}
      (hform : formOf naive (trim text) = .ok (.union parts)) (hlength : parts.length = ts.length)
      (hparts : ∀ p ∈ parts.zip ts, Reads naive p.1 p.2) : Reads naive text (.union ts)
  | generic {text name : List Char} {parts : List (List Char)} {ts : List TypeExpr}
      (hform : formOf naive (trim text) = .ok (.generic name parts))
      (hlength : parts.length = ts.length) (hparts : ∀ p ∈ parts.zip ts, Reads naive p.1 p.2) :
      Reads naive text (.generic (String.ofList name) ts)
  | record {text : List Char} {texts : List (List Char × List Char)}
      {fields : List (String × TypeExpr)} (hform : formOf naive (trim text) = .ok (.record texts))
      (hlength : texts.length = fields.length)
      (hnames : ∀ p ∈ texts.zip fields, String.ofList p.1.1 = p.2.1)
      (hfields : ∀ p ∈ texts.zip fields, Reads naive p.1.2 p.2.2) :
      Reads naive text (.record (Entries.putAll [] fields))
  | scalar {text name : List Char} (hform : formOf naive (trim text) = .ok (.scalar name)) :
      Reads naive text (.scalar (String.ofList name))

section Zip

variable {α β : Type} {xs : List α} {ys : List β}

/-- What is true of every text that belongs to a part is true of every text. -/
theorem forall_left_of_zip {p : α → Prop} (hlength : xs.length = ys.length)
    (h : ∀ q ∈ xs.zip ys, p q.1) : ∀ x ∈ xs, p x := by
  intro x hx
  rw [← List.map_fst_zip (Nat.le_of_eq hlength)] at hx
  obtain ⟨q, hq, rfl⟩ := List.mem_map.1 hx
  exact h q hq

/-- What is true of every part that belongs to a text is true of every part. -/
theorem forall_right_of_zip {p : β → Prop} (hlength : xs.length = ys.length)
    (h : ∀ q ∈ xs.zip ys, p q.2) : ∀ y ∈ ys, p y := by
  intro y hy
  rw [← List.map_snd_zip (Nat.le_of_eq hlength.symm)] at hy
  obtain ⟨q, hq, rfl⟩ := List.mem_map.1 hy
  exact h q hq

end Zip

theorem length_le_total {parts : List (List Char)} (h : w ∈ parts) : w.length ≤ total parts := by
  induction parts with
  | nil => cases h
  | cons p ps ih =>
    rw [total_cons]
    obtain rfl | h := List.mem_cons.1 h
    · exact Nat.le_add_right _ _
    · exact Nat.le_add_left_of_le (ih h)

/-- A text that is read reads as what comes out. -/
theorem reads_of_parse {t : TypeExpr} (h : parse naive text = .ok t) : Reads naive text t := by
  -- The texts inside of a form are shorter than the text.
  induction hn : text.length using Nat.strong_induction_on generalizing text t with
  | _ n ih =>
    subst hn
    rw [parse_eq] at h
    cases hform : formOf naive (trim text) with
    | error e =>
      rw [hform] at h
      cases h
    | ok f =>
      have hshorter {inner : List Char} (hinner : inner.length ≤ f.size) :
          inner.length < text.length :=
        Nat.lt_of_le_of_lt hinner (Nat.lt_of_lt_of_le (size_formOf hform) (length_trim_le text))
      rw [hform] at h
      simp only [Except.bind] at h
      cases f with
      | group inner => exact .group hform (ih _ (hshorter (Nat.le_refl _)) h rfl)
      | array element =>
        obtain ⟨e, he, rfl⟩ := map_eq_ok.1 h
        exact .array hform (ih _ (hshorter (Nat.le_refl _)) he rfl)
      | union parts =>
        obtain ⟨ts, hts, rfl⟩ := map_eq_ok.1 h
        obtain ⟨hlength, hparts⟩ := List.forall₂_iff_zip.1 (parseAll_eq_ok.1 hts)
        refine .union hform hlength fun p hp => ?_
        exact ih _ (hshorter (length_le_total (List.of_mem_zip hp).1)) (hparts hp) rfl
      | generic name parts =>
        obtain ⟨ts, hts, rfl⟩ := map_eq_ok.1 h
        obtain ⟨hlength, hparts⟩ := List.forall₂_iff_zip.1 (parseAll_eq_ok.1 hts)
        refine .generic hform hlength fun p hp => ?_
        exact ih _ (hshorter (length_le_total (List.of_mem_zip hp).1)) (hparts hp) rfl
      | record texts =>
        obtain ⟨fields, hfields, rfl⟩ := map_eq_ok.1 h
        obtain ⟨hlength, hparts⟩ := List.forall₂_iff_zip.1 (parseFields_eq_ok.1 hfields)
        refine .record hform hlength (fun p hp => (hparts hp).1) fun p hp => ?_
        have hmem : p.1.2 ∈ texts.map Prod.snd := List.mem_map_of_mem (List.of_mem_zip hp).1
        exact ih _ (hshorter (length_le_total hmem)) (hparts hp).2 rfl
      | scalar name =>
        cases h
        exact .scalar hform

theorem Reads.parse {t : TypeExpr} (h : Reads naive text t) : parse naive text = .ok t := by
  induction h with
  | group hform _ ih =>
    rw [parse_eq, hform]
    exact ih
  | array hform _ ih =>
    rw [parse_eq, hform]
    exact map_eq_ok.2 ⟨_, ih, rfl⟩
  | union hform hlength _ ih =>
    have hread := parseAll_eq_ok.2 (List.forall₂_iff_zip.2 ⟨hlength, ih _⟩)
    rw [parse_eq, hform]
    exact map_eq_ok.2 ⟨_, hread, rfl⟩
  | generic hform hlength _ ih =>
    have hread := parseAll_eq_ok.2 (List.forall₂_iff_zip.2 ⟨hlength, ih _⟩)
    rw [parse_eq, hform]
    exact map_eq_ok.2 ⟨_, hread, rfl⟩
  | record hform hlength hnames _ ih =>
    have hread := parseFields_eq_ok.2
      (List.forall₂_iff_zip.2 ⟨hlength, fun hp => ⟨hnames _ hp, ih _ hp⟩⟩)
    rw [parse_eq, hform]
    exact map_eq_ok.2 ⟨_, hread, rfl⟩
  | scalar hform =>
    rw [parse_eq, hform]
    rfl

/-! ## Read texts are closed -/

theorem isClosed_of_alternatives {parts : List (List Char)}
    (hparts : alternatives naive s = .ok parts) (hclosed : ∀ p ∈ parts, IsClosed p) :
    IsClosed s := by
  cases naive with
  | false => exact isClosed_iff.2 ⟨parts, hparts⟩
  | true =>
    obtain rfl : splitOn '|' s = parts := Except.ok.inj hparts
    rw [← intercalate_splitOn '|' s]
    exact .intercalate (by decide) (by decide) (by decide) (by decide) hclosed

theorem Reads.isClosed_trim {t : TypeExpr} (h : Reads naive text t) : IsClosed (trim text) := by
  induction h with
  | group hform _ ih =>
    cases hasForm_of_formOf hform with
    | group hs => exact isClosed_of_encloses hs (isClosed_of_trim ih)
  | array hform _ ih =>
    cases hasForm_of_formOf hform with
    | array hs => exact isClosed_of_encloses hs (isClosed_of_trim ih)
    | marked hs =>
      have hmark : IsClosed "[]".toList := .enclose (o := '[') rfl .nil
      rw [hs]
      exact (isClosed_of_trim ih).append hmark fun hquote => by simp at hquote
  | union hform hlength _ ih =>
    cases hasForm_of_formOf hform with
    | union hparts _ =>
      refine isClosed_of_alternatives hparts (forall_left_of_zip hlength fun q hq => ?_)
      exact isClosed_of_trim (ih q hq)
  | generic hform _ _ _ =>
    cases hasForm_of_formOf hform with
    | generic hs _ hparts => exact isClosed_of_encloses hs (isClosed_iff.2 ⟨_, hparts⟩)
  | record hform _ _ _ _ =>
    cases hasForm_of_formOf hform with
    | empty hs hw =>
      refine isClosed_of_encloses hs (isClosed_of_trim ?_)
      rw [hw]
      exact .nil
    | record hs hpairs _ => exact isClosed_of_encloses hs (isClosed_iff.2 ⟨_, hpairs⟩)
  | scalar hform =>
    cases hasForm_of_formOf hform with
    | scalar _ hs => exact hs.isClosed

/-- A text that can be read leaves neither a bracket nor a quote open. -/
theorem Reads.isClosed {t : TypeExpr} (h : Reads naive text t) : IsClosed text :=
  isClosed_of_trim h.isClosed_trim

end SceneBridge.TypeExpr
