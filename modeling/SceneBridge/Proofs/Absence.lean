import SceneBridge.Proofs.Failures
import SceneBridge.Proofs.Outcome

/-!
# What is missing

What a conversion makes of a value that is missing, type by type: most types leave it missing, but
a record type makes a record of it whose fields are missing.
-/

namespace SceneBridge

/-- What becomes of a value that is missing. -/
inductive Absence where
  /-- It stays missing. -/
  | stays
  /-- A record takes its place. -/
  | record
  /-- The conversion fails. -/
  | refused
deriving DecidableEq, Repr

namespace TypeExpr

mutual

/-- What the type makes of a value that is missing. -/
def absence : TypeExpr → Absence
  | .scalar _ | .array _ | .generic _ _ => .stays
  | .record fields => if anyRefused fields then .refused else .record
  | .union as => firstAbsence as

/-- What the first of the alternatives makes of it that does not refuse it. -/
def firstAbsence : List TypeExpr → Absence
  | [] => .refused
  | a :: as => if a.absence = .refused then firstAbsence as else a.absence

/-- Is the value of one of the fields refused if it is missing? -/
def anyRefused : List (String × TypeExpr) → Bool
  | [] => false
  | (_, t) :: fields => t.absence = .refused || anyRefused fields

end

end TypeExpr

namespace Conversion

variable {V C : Type} {k : Surroundings (Except Fault) V C} {nothing : V}

/-- There is a value for what is missing, and records are never missing. -/
structure TakesNothing (k : Surroundings (Except Fault) V C) (nothing : V) (isNothing : V → Bool) :
    Prop where
  see : k.see nothing = .ok .null
  ofDatum : k.ofDatum .null = .ok nothing
  missing : isNothing nothing = true
  record : ∀ es, ∃ r, k.record es = .ok r
  entries : ∀ {es r}, k.record es = .ok r → k.entries? r = .ok (some es) ∧ isNothing r = false
  note : ∀ n, k.note n = pure ()

/-- The conversion of a missing value comes to what is said of it. -/
def Becomes (k : Surroundings (Except Fault) V C) (nothing : V) : Absence → Except Fault V → Prop
  | .stays, x => x = .ok nothing
  | .record, x => ∃ es r, k.record es = .ok r ∧ x = .ok r
  | .refused, x => ∃ f, x = .error f

theorem Becomes.ok_or_error {a : Absence} {x : Except Fault V} (h : Becomes k nothing a x) :
    (a ≠ .refused ∧ ∃ r, x = .ok r) ∨ a = .refused ∧ ∃ f, x = .error f := by
  cases a with
  | stays => exact .inl ⟨nofun, nothing, h⟩
  | record =>
    obtain ⟨es, r, -, hx⟩ := h
    exact .inl ⟨nofun, r, hx⟩
  | refused => exact .inr ⟨rfl, h⟩

variable {isNothing : V → Bool} (hk : TakesNothing k nothing isNothing)

include hk

theorem convertFirst_becomes (names : List String) {as : List TypeExpr}
    (ih : ∀ a ∈ as, Becomes k nothing a.absence (convertAs k true nothing a)) :
    Becomes k nothing (TypeExpr.firstAbsence as) (convertFirst k nothing names as) := by
  induction as with
  | nil =>
    rw [TypeExpr.firstAbsence, convertFirst, hk.see]
    exact ⟨_, rfl⟩
  | cons a as ihas =>
    have hfirst := ih a List.mem_cons_self
    have hrest := ihas fun b hb => ih b (List.mem_cons_of_mem _ hb)
    rw [TypeExpr.firstAbsence, convertFirst]
    -- The next alternative is tried only if this one refuses.
    cases habsence : a.absence with
    | stays =>
      rw [habsence] at hfirst
      rw [if_neg (by decide), hfirst]
      rfl
    | record =>
      rw [habsence] at hfirst
      obtain ⟨es, r, hr, hfirst⟩ := hfirst
      rw [if_neg (by decide), hfirst]
      exact ⟨es, r, hr, rfl⟩
    | refused =>
      rw [habsence] at hfirst
      obtain ⟨f, hfirst⟩ := hfirst
      have htried : (tryCatchThe Fault (convertAs k true nothing a) fun f => do
          k.note (.branchFailed a nothing f)
          convertFirst k nothing names as) = convertFirst k nothing names as := by
        rw [hfirst]
        change (k.note _ >>= fun _ => convertFirst k nothing names as) = _
        rw [hk.note]
        rfl
      rw [if_pos rfl, htried]
      exact hrest

theorem convertFields_becomes (strict : Bool) {fields : List (String × TypeExpr)}
    (ih : ∀ f ∈ fields, Becomes k nothing f.2.absence (convertAs k strict nothing f.2)) :
    if TypeExpr.anyRefused fields then
      ∃ f, convertFields k strict (.entries []) fields = .error f
    else ∃ es, convertFields k strict (.entries []) fields = .ok es := by
  induction fields with
  | nil => exact ⟨[], rfl⟩
  | cons field fields ihfields =>
    obtain ⟨key, t⟩ := field
    have hfirst := ih (key, t) List.mem_cons_self
    have hrest := ihfields fun f hf => ih f (List.mem_cons_of_mem _ hf)
    have hget : FieldSource.get k key (.entries []) = .ok nothing := hk.ofDatum
    rw [TypeExpr.anyRefused, convertFields, hget, ok_bind]
    rcases hfirst.ok_or_error with ⟨hkept, r, hr⟩ | ⟨hrefused, f, hf⟩
    · simp only [hkept, decide_false, Bool.false_or]
      rw [hr, ok_bind]
      split
      · rename_i hany
        rw [if_pos hany] at hrest
        obtain ⟨f, hf⟩ := hrest
        exact ⟨f, by rw [hf]; rfl⟩
      · rename_i hnone
        rw [if_neg hnone] at hrest
        obtain ⟨es, hes⟩ := hrest
        exact ⟨(key, r) :: es, by rw [hes]; rfl⟩
    · simp only [hrefused, decide_true, Bool.true_or, if_true]
      exact ⟨f, by rw [hf]; rfl⟩

/-- What a conversion makes of a missing value is what its type says. -/
theorem convertAs_becomes (strict : Bool) (t : TypeExpr) :
    Becomes k nothing t.absence (convertAs k strict nothing t) := by
  induction t generalizing strict with
  | scalar name =>
    rw [TypeExpr.absence, convertAs, hk.see]
    rfl
  | array element ih =>
    rw [TypeExpr.absence, convertAs, hk.see]
    rfl
  | generic name params ih =>
    rw [TypeExpr.absence, convertAs, hk.see]
    rfl
  | union as ih =>
    rw [TypeExpr.absence, convertAs]
    exact convertFirst_becomes hk _ fun a ha => ih a ha true
  | record fields ih =>
    have hsource : fieldSource k nothing = .ok (.ok (.entries [])) := by
      rw [fieldSource, hk.see]
      rfl
    have hfields := convertFields_becomes hk strict fun f hf => ih f hf strict
    rw [TypeExpr.absence, convertAs, hsource, ok_bind]
    dsimp only
    split
    · rename_i hany
      rw [if_pos hany] at hfields
      obtain ⟨f, hf⟩ := hfields
      exact ⟨f, by rw [hf]; rfl⟩
    · rename_i hnone
      rw [if_neg hnone] at hfields
      obtain ⟨es, hes⟩ := hfields
      obtain ⟨r, hr⟩ := hk.record es
      exact ⟨es, r, hr, by rw [hes]; exact hr⟩

/-! ## Records in texts -/

omit hk in
/-- A text that is the notation of a record is converted field by field. -/
theorem convertAs_record_text {v : V} {s : String} {es : List (String × Datum)}
    (hsee : k.see v = .ok (.text s)) (hread : Json.read s.toList = .ok (.record es)) (strict : Bool)
    (fields : List (String × TypeExpr)) :
    convertAs k strict v (.record fields) =
      (convertFields k strict (.data es) fields >>= k.record) := by
  have hsource : fieldSource k v = .ok (.ok (.data es)) := by
    rw [fieldSource, hsee, ok_bind]
    dsimp only
    rw [hread]
    rfl
  rw [convertAs, hsource, ok_bind]

omit hk in
theorem convertFields_keys {strict : Bool} {source : FieldSource V}
    {fields : List (String × TypeExpr)} {rs : List (String × V)}
    (h : convertFields k strict source fields = .ok rs) : rs.map (·.1) = fields.map (·.1) := by
  induction fields generalizing rs with
  | nil =>
    rw [convertFields] at h
    cases h
    rfl
  | cons field fields ih =>
    rw [convertFields] at h
    obtain ⟨v, -, h⟩ := bind_eq_ok_iff.1 h
    obtain ⟨r, -, h⟩ := bind_eq_ok_iff.1 h
    obtain ⟨rest, hrest, h⟩ := bind_eq_ok_iff.1 h
    cases h
    rw [List.map_cons, List.map_cons, ih hrest]

/-- The fields that a text does not mention come to what their types make of a missing value. -/
theorem mem_convertFields_absent {strict : Bool} {es : List (String × Datum)}
    {fields : List (String × TypeExpr)} {rs : List (String × V)}
    (h : convertFields k strict (.data es) fields = .ok rs) {key : String}
    (habsent : es.lookup key = none) (r : V) :
    (key, r) ∈ rs ↔ ∃ t, (key, t) ∈ fields ∧ convertAs k strict nothing t = .ok r := by
  induction fields generalizing rs with
  | nil =>
    rw [convertFields] at h
    cases h
    simp
  | cons field fields ih =>
    obtain ⟨name, t⟩ := field
    rw [convertFields] at h
    obtain ⟨v, hv, h⟩ := bind_eq_ok_iff.1 h
    obtain ⟨first, hfirst, h⟩ := bind_eq_ok_iff.1 h
    obtain ⟨rest, hrest, h⟩ := bind_eq_ok_iff.1 h
    cases h
    have hmissing (hname : name = key) : v = nothing := by
      rw [FieldSource.get, hname, habsent] at hv
      exact Except.ok.inj (hv.symm.trans hk.ofDatum)
    rw [List.mem_cons, ih hrest]
    constructor
    · rintro (heq | ⟨t', hmem, hr⟩)
      · obtain ⟨rfl, rfl⟩ := Prod.mk.inj heq
        rw [hmissing rfl] at hfirst
        exact ⟨t, List.mem_cons_self, hfirst⟩
      · exact ⟨t', List.mem_cons_of_mem _ hmem, hr⟩
    · rintro ⟨t', hmem, hr⟩
      rcases List.mem_cons.1 hmem with heq | hmem
      · obtain ⟨rfl, rfl⟩ := Prod.mk.inj heq
        rw [hmissing rfl, hr] at hfirst
        exact .inl (by rw [Except.ok.inj hfirst])
      · exact .inr ⟨t', hmem, hr⟩

end Conversion

end SceneBridge
