import SceneBridge.Proofs.Memo
import SceneBridge.Proofs.TypeReadings

/-!
# The shape of readings

What every type that was read from a text has in common: its names are names, its choices are
choices, and nothing that the grammar takes apart is left inside of its names.
-/

namespace SceneBridge.TypeExpr

open Text Brackets

variable {naive : Bool} {text : List Char} {t : TypeExpr}

/-- A type without empty names and without parts that the grammar would have taken apart. -/
inductive Shaped : TypeExpr → Prop
  | scalar {name : String} (hne : name ≠ "") (htrimmed : trimText name = name)
      (hwhole : splitText name "|" (-1) = .ok [name]) : Shaped (.scalar name)
  | array {element : TypeExpr} (helement : Shaped element) : Shaped (.array element)
  | union {as : List TypeExpr} (hlength : 2 ≤ as.length) (has : ∀ a ∈ as, Shaped a) :
      Shaped (.union as)
  | generic {name : String} {params : List TypeExpr}
      (hstarts : name.toList.head?.any isNameStart = true) (hends : name.toList.getLast? ≠ some '.')
      (hne : params ≠ []) (hparams : ∀ p ∈ params, Shaped p) : Shaped (.generic name params)
  | record {fields : List (String × TypeExpr)} (hnames : ∀ f ∈ fields, f.1 ≠ "")
      (hfields : ∀ f ∈ fields, Shaped f.2) : Shaped (.record fields)

/-! ## Names -/

theorem splitText_bar {w : List Char} (h : IsPart (· == '|') w) :
    splitText (String.ofList w) "|" (-1) = .ok [String.ofList w] := by
  have hbar : IsPart (fun c => "|" == String.singleton c) w := by
    refine h.mono fun c _ hc => ?_
    have hchars := congrArg String.toList (eq_of_beq hc)
    rw [String.toList_singleton] at hchars
    exact beq_iff_eq.2 (List.cons.inj hchars).1.symm
  have hsplit : split (fun c => "|" == String.singleton c) none w = .ok [w] := hbar.split
  rw [splitText, if_pos (by decide), String.toList_ofList, hsplit]
  rfl

/-- Of a name that starts as one, trimming dots on the right leaves a name. -/
theorem head?_trimRightBy_dot {name : List Char} (h : name.head?.any isNameStart = true) :
    (trimRightBy (· == '.') name).head?.any isNameStart = true := by
  cases name with
  | nil => cases h
  | cons c cs =>
    have hstart : isNameStart c = true := by simpa using h
    have hdot : (c == '.') = false := by
      refine beq_eq_false_iff_ne.2 ?_
      rintro rfl
      cases hstart
    have hstays := trimRightBy_append_cons (p := (· == '.')) hdot [] cs
    rw [List.nil_append, List.nil_append] at hstays
    rw [hstays]
    exact h

theorem ne_nil_of_fieldOf {pair : List Char} {f : List Char × List Char}
    (h : fieldOf pair = .ok f) : f.1 ≠ [] := by
  unfold fieldOf at h
  split at h
  · cases h
  · dsimp only at h
    split at h
    · cases h
    · rename_i hne
      cases h
      simpa using hne

/-! ## Types in shape -/

/-- Whatever a text reads as is in shape. -/
theorem Reads.shaped (h : Reads naive text t) : Shaped t := by
  induction h with
  | group _ _ ih => exact ih
  | array _ _ ih => exact .array ih
  | union hform hlength _ ih =>
    cases hasForm_of_formOf hform with
    | union _ htwo => exact .union (hlength ▸ htwo) (forall_right_of_zip hlength ih)
  | @generic _ _ parts ts hform hlength _ ih =>
    cases hasForm_of_formOf hform with
    | generic _ hname hparts =>
      refine .generic ?_ ?_ ?_ (forall_right_of_zip hlength ih)
      · rw [String.toList_ofList]
        exact head?_trimRightBy_dot hname
      · rw [String.toList_ofList]
        intro hdot
        exact absurd (eq_false_of_getLast?_trimRightBy hdot) (by decide)
      · rintro rfl
        exact ne_nil_of_splitFrom hparts (List.length_eq_zero_iff.1 hlength)
  | @record _ texts fields hform hlength hnames _ ih =>
    have hkeys : ∀ f ∈ texts, f.1 ≠ [] := by
      cases hasForm_of_formOf hform with
      | empty => exact nofun
      | record _ _ hfields =>
        intro f hf
        obtain ⟨i, hi, rfl⟩ := List.getElem_of_mem hf
        exact ne_nil_of_fieldOf (hfields.get (hfields.length_eq ▸ hi) hi)
    have hput {f : String × TypeExpr} (hf : f ∈ Entries.putAll [] fields) : f ∈ fields :=
      (Entries.mem_of_mem_putAll hf).resolve_left List.not_mem_nil
    have hnonempty : ∀ f ∈ fields, f.1 ≠ "" := by
      refine forall_right_of_zip hlength fun q hq => ?_
      rw [← hnames q hq]
      exact String.ofList_eq_empty_iff.not.2 (hkeys q.1 (List.of_mem_zip hq).1)
    have hshaped : ∀ f ∈ fields, Shaped f.2 := forall_right_of_zip hlength ih
    exact .record (fun f hf => hnonempty f (hput hf)) fun f hf => hshaped f (hput hf)
  | @scalar text _ hform =>
    cases hasForm_of_formOf hform with
    | scalar hne hs =>
      refine .scalar (String.ofList_eq_empty_iff.not.2 hne) ?_ (splitText_bar hs)
      have htrim : trim (trim text) = trim text := isTrimmed_trim text
      rw [trimText, String.toList_ofList, htrim]

/-! ## Whatever is read -/

theorem error_of_splitText (naive : Bool) {text sep : String} {most : Int} {e : Malformed}
    (h : splitText text sep most = .error e) : ∃ fault, parse naive text.toList = .error fault := by
  cases hparse : parse naive text.toList with
  | error fault => exact ⟨fault, rfl⟩
  | ok t =>
    -- A text that is read is closed, so that it can be split.
    obtain ⟨parts, hparts⟩ := isClosed_iff.1 (reads_of_parse hparse).isClosed
    rw [splitText, hparts] at h
    cases h

/-- What is read from a text is in shape, unless it is the text as a name. It is that for every text
that leaves a bracket or a quote open, or closes what was not opened. -/
theorem shaped_read {m : Memo} (hm : m.Reached) (limit : Nat) (naive : Bool) (text : String) :
    ((m.read limit naive text).1 = .scalar (trimText text) ∨
      Shaped (m.read limit naive text).1) ∧
    ∀ sep most fault, splitText text sep most = .error fault →
      (m.read limit naive text).1 = .scalar (trimText text) := by
  rw [hm.isFaithful.read_fst]
  constructor
  · rw [ofText]
    split
    · rename_i t hparse
      exact .inr (reads_of_parse hparse).shaped
    · exact .inl rfl
  · intro sep most fault hsplit
    obtain ⟨e, hparse⟩ := error_of_splitText naive hsplit
    rw [ofText, hparse]

theorem shaped_read_unclosed :
    let m := (Memo.empty.read 8 true "Map.<a|b, c[]>").2
    ((m.read 8 false "Map.<a|b, c[]>").1 = .scalar "Map.<a|b, c[]>" ∨
      Shaped (m.read 8 false "Map.<a|b, c[]>").1) ∧
    (m.read 8 true " Map.<a|(b, c[]>").1 = .scalar "Map.<a|(b, c[]>" := by
  intro m
  have hm : m.Reached := .read .empty 8 true "Map.<a|b, c[]>"
  have hfault : splitText " Map.<a|(b, c[]>" "|" (-1) =
      .error (.unbalanced '>' 15 " Map.<a|(b, c[]>".toList) := by decide
  exact ⟨(shaped_read hm 8 false "Map.<a|b, c[]>").1,
    (shaped_read hm 8 true " Map.<a|(b, c[]>").2 _ _ _ hfault⟩

end SceneBridge.TypeExpr
