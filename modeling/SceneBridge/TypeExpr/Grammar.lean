import SceneBridge.Entries
import SceneBridge.Text.Blank
import SceneBridge.Text.Letter
import SceneBridge.TypeExpr.Basic
import SceneBridge.TypeExpr.Brackets

/-!
# The grammar of type expressions

A text is first given a form: parentheses around it all, an array wrapper,
alternatives, a list mark at its end, a name with parameters, a record, or just a
name. The forms are tried in this order, and the texts inside a form are shorter
than the form, so that reading ends. A text without a form is read as a name.
-/

namespace SceneBridge.TypeExpr

open Text Brackets

/-! ## Forms -/

/-- The outermost form of a type text, with the texts of its parts. -/
inductive Form where
  | group (inner : List Char)
  | array (element : List Char)
  | union (alternatives : List (List Char))
  | generic (name : List Char) (params : List (List Char))
  | record (fields : List (List Char × List Char))
  | scalar (name : List Char)

/-- What stands after position `i` and before the last character. -/
def inside (s : List Char) (i : Nat) : List Char :=
  (s.drop (i + 1)).dropLast

/-- The characters that may start a type name. -/
def isNameStart (c : Char) : Bool :=
  c.isAlpha || c == '_' || c == '$'

/-- The characters that may follow in a type name. -/
def isNameChar (c : Char) : Bool :=
  isWordChar c || c == '$' || c == '.'

/-- The name in front of a first opening angle bracket, and the position of that bracket. -/
def genericHead? : List Char → Option (List Char × Nat)
  | [] => none
  | c :: cs =>
    if isNameStart c then
      let name := c :: cs.takeWhile isNameChar
      let rest := cs.dropWhile isNameChar
      if (rest.dropWhile isBlank).head? == some '<' then
        some (name, name.length + (rest.takeWhile isBlank).length)
      else none
    else none

/-- The name and the type text of a record field. -/
def fieldOf (pair : List Char) : Except Malformed (List Char × List Char) :=
  match cutAt? ':' pair with
  | none => .error (.badField pair)
  | some (key, value) =>
    let key := trimBy (fun c => c == '"' || c == '\'') (trim key)
    if key.isEmpty then .error (.badField pair) else .ok (key, value)

/-- The alternatives of a text. The naive reading splits at every bar. -/
def alternatives (naive : Bool) (s : List Char) : Except Malformed (List (List Char)) :=
  if naive then .ok (splitOn '|' s) else split (· == '|') none s

/-- The form of a record text without its braces. -/
def recordForm (inner : List Char) : Except Malformed Form :=
  if (trim inner).isEmpty then .ok (.record [])
  else do
    let pairs ← split (· == ',') none inner
    .record <$> pairs.mapM fieldOf

/-- The form of a text that is neither wrapped nor a choice. -/
def innerForm (s : List Char) : Except Malformed Form :=
  if "[]".toList.isSuffixOf s && s.length > 2 then
    .ok (.array (s.take (s.length - 2)))
  else
    match genericHead? s with
    | some (name, i) =>
      if s.getLast? == some '>' && wraps s i then
        (split (· == ',') none (inside s i)).map (.generic (trimRightBy (· == '.') name))
      else if s.head? == some '\x7b' && wraps s 0 then recordForm (inside s 0)
      else (split (· == '|') none s).map fun _ => .scalar s
    | none =>
      if s.head? == some '\x7b' && wraps s 0 then recordForm (inside s 0)
      else (split (· == '|') none s).map fun _ => .scalar s

/-- The form of a text without blanks around it. -/
def formOf (naive : Bool) (s : List Char) : Except Malformed Form :=
  if s.isEmpty then .error .emptySegment
  else if s.head? == some '(' && wraps s 0 then .ok (.group (inside s 0))
  else if "Array.<".toList.isPrefixOf s && wraps s 6 then .ok (.array (inside s 6))
  else if "Array<".toList.isPrefixOf s && wraps s 5 then .ok (.array (inside s 5))
  else do
    let parts ← alternatives naive s
    if parts.length > 1 then return .union parts else innerForm s

/-! ## The texts inside a form are shorter -/

/-- The characters of the texts inside a form. -/
def Form.size : Form → Nat
  | .group t => t.length
  | .array t => t.length
  | .union ts => total ts
  | .generic _ ts => total ts
  | .record fs => total (fs.map Prod.snd)
  | .scalar _ => 0

theorem length_inside {s : List Char} (i : Nat) (h : s ≠ []) : (inside s i).length < s.length := by
  have : 0 < s.length := List.length_pos_iff.2 h
  simp only [inside, List.length_dropLast, List.length_drop]
  omega

theorem total_alternatives {naive s parts} (h : alternatives naive s = .ok parts) :
    total parts + parts.length = s.length + 1 := by
  unfold alternatives at h
  split at h
  · cases h
    exact total_splitOn '|' s
  · exact total_split h

theorem length_cutAt {sep : Char} {s l r : List Char} (h : cutAt? sep s = some (l, r)) :
    r.length < s.length := by
  induction s generalizing l with
  | nil => simp [cutAt?] at h
  | cons c cs ih =>
    unfold cutAt? at h
    split at h
    · cases h
      simp
    · simp only [Option.map_eq_some_iff, Prod.mk.injEq, Prod.exists] at h
      obtain ⟨l', r', hc, _, rfl⟩ := h
      exact Nat.lt_succ_of_lt (ih hc)

theorem length_fieldOf {pair : List Char} {f : List Char × List Char} (h : fieldOf pair = .ok f) :
    f.2.length ≤ pair.length := by
  unfold fieldOf at h
  split at h
  · cases h
  · rename_i key value hc
    simp only at h
    split at h
    · cases h
    · cases h
      exact Nat.le_of_lt (length_cutAt hc)

theorem total_fields {pairs : List (List Char)} {fs : List (List Char × List Char)}
    (h : pairs.mapM fieldOf = .ok fs) : total (fs.map Prod.snd) ≤ total pairs := by
  induction pairs generalizing fs with
  | nil =>
    cases h
    simp
  | cons p ps ih =>
    rw [List.mapM_cons] at h
    obtain ⟨f, hf, h⟩ := bind_eq_ok.1 h
    obtain ⟨gs, hgs, h⟩ := bind_eq_ok.1 h
    cases h
    have := ih hgs
    have := length_fieldOf hf
    simp only [List.map_cons, total_cons]
    omega

theorem size_recordForm {inner : List Char} {f : Form} (h : recordForm inner = .ok f) :
    f.size ≤ inner.length := by
  unfold recordForm at h
  split at h
  · cases h
    simp [Form.size]
  · obtain ⟨pairs, hpairs, h⟩ := bind_eq_ok.1 h
    obtain ⟨fs, hfs, h⟩ := bind_eq_ok.1 h
    cases h
    have hl := total_split hpairs
    have := total_fields hfs
    cases pairs with
    | nil => simp at hl
    | cons p ps =>
      simp only [Form.size, List.length_cons] at *
      omega

theorem size_split {sep s} {k : List (List Char) → Form} {f : Form}
    (hk : ∀ ps, (k ps).size ≤ total ps) (h : (split sep none s).map k = .ok f) :
    f.size ≤ s.length := by
  obtain ⟨ps, hp, rfl⟩ := map_eq_ok.1 h
  have hl := total_split hp
  have := hk ps
  cases ps with
  | nil => simp at hl
  | cons p ps => simp only [List.length_cons] at *; omega

theorem size_innerForm {s : List Char} {f : Form} (hs : s ≠ []) (h : innerForm s = .ok f) :
    f.size < s.length := by
  have hpos : 0 < s.length := List.length_pos_iff.2 hs
  have hscalar : ∀ {g}, (split (· == '|') none s).map (fun _ => Form.scalar s) = .ok g →
      g.size < s.length := by
    intro g hg
    obtain ⟨_, _, rfl⟩ := map_eq_ok.1 hg
    exact hpos
  have hrecord : recordForm (inside s 0) = .ok f → f.size < s.length := fun hr =>
    Nat.lt_of_le_of_lt (size_recordForm hr) (length_inside 0 hs)
  unfold innerForm at h
  split at h
  · rename_i hc
    cases h
    simp only [Bool.and_eq_true, decide_eq_true_eq] at hc
    simp only [Form.size, List.length_take]
    omega
  · split at h
    · split at h
      · exact Nat.lt_of_le_of_lt (size_split (fun _ => Nat.le_refl _) h) (length_inside _ hs)
      · split at h
        · exact hrecord h
        · exact hscalar h
    · split at h
      · exact hrecord h
      · exact hscalar h

/-- The texts inside a form are shorter than the text that has the form. -/
theorem size_formOf {naive s f} (h : formOf naive s = .ok f) : f.size < s.length := by
  unfold formOf at h
  split at h
  · cases h
  · rename_i hne
    have hs : s ≠ [] := by simpa using hne
    split at h
    · cases h
      exact length_inside 0 hs
    · split at h
      · cases h
        exact length_inside 6 hs
      · split at h
        · cases h
          exact length_inside 5 hs
        · obtain ⟨parts, hparts, h⟩ := bind_eq_ok.1 h
          split at h
          · cases h
            have := total_alternatives hparts
            simp only [Form.size]
            omega
          · exact size_innerForm hs h

/-! ## Reading -/

mutual

/-- Reads a type text. -/
def parse (naive : Bool) (text : List Char) : Except Malformed TypeExpr :=
  match h : formOf naive (trim text) with
  | .error e => .error e
  | .ok (.group inner) =>
    have := size_formOf h
    have := length_trim_le text
    parse naive inner
  | .ok (.array element) =>
    have := size_formOf h
    have := length_trim_le text
    (parse naive element).map .array
  | .ok (.union parts) =>
    have := size_formOf h
    have := length_trim_le text
    (parseAll naive parts).map .union
  | .ok (.generic name parts) =>
    have := size_formOf h
    have := length_trim_le text
    (parseAll naive parts).map (.generic (String.ofList name))
  | .ok (.record fields) =>
    have := size_formOf h
    have := length_trim_le text
    (parseFields naive fields).map fun fs => .record (fs.foldl (fun t f => Entries.put t f.1 f.2) [])
  | .ok (.scalar name) => .ok (.scalar (String.ofList name))
termination_by (text.length, 0)
decreasing_by all_goals simp_all only [Form.size, Prod.lex_def]; omega

/-- Reads some type texts, in order. -/
def parseAll (naive : Bool) (texts : List (List Char)) : Except Malformed (List TypeExpr) :=
  match texts with
  | [] => .ok []
  | t :: ts => do
    let e ← parse naive t
    let es ← parseAll naive ts
    return e :: es
termination_by (total texts, texts.length)
decreasing_by all_goals simp only [Prod.lex_def, total_cons, List.length_cons]; omega

/-- Reads the types of some fields, in order. -/
def parseFields (naive : Bool) (fields : List (List Char × List Char)) :
    Except Malformed (List (String × TypeExpr)) :=
  match fields with
  | [] => .ok []
  | (key, t) :: fs => do
    let e ← parse naive t
    let es ← parseFields naive fs
    return (String.ofList key, e) :: es
termination_by (total (fields.map Prod.snd), fields.length)
decreasing_by
  all_goals simp only [Prod.lex_def, List.map_cons, total_cons, List.length_cons]; omega

end

/-- The type that a text stands for. A text that no reading fits is a name. -/
def ofText (naive : Bool) (text : String) : TypeExpr :=
  match parse naive text.toList with
  | .ok t => t
  | .error _ => .scalar (trimText text)

end SceneBridge.TypeExpr
