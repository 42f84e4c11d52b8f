import SceneBridge.Proofs.Possible
import SceneBridge.Proofs.ReadableDocs
import SceneBridge.Reflect.Cache

/-!
# Remembered metadata among unknown classes

A cache of metadata among classes whose constructors may do anything, and may ask the cache
themselves. A call that fails leaves no trace where no instance can be made. But the instance is
counted before its metadata is extracted, and so an extraction that fails is counted without a class
that is remembered. Extraction fails if and only if looking at the instance does, or its class says something
of a name that cannot be read. An extraction is also counted for no further class if the
constructor of a class asks for this class itself.
-/

namespace SceneBridge

open Possibly

theorem Entries.length_put {K V : Type} [BEq K] [LawfulBEq K] (entries : List (K × V)) (key : K)
    (value : V) : (put entries key value).length =
      if (entries.lookup key).isSome then entries.length else entries.length + 1 := by
  cases hold : entries.lookup key with
  | none =>
    rw [put_of_notMem value (lookup_eq_none_iff.1 hold), List.length_append]
    rfl
  | some old =>
    have hkey : key ∈ entries.map (·.1) := List.mem_map.2 ⟨_, mem_of_lookup hold, rfl⟩
    have hkeys := congrArg List.length (keys_put_of_has entries value (has_iff.2 hkey))
    rwa [List.length_map, List.length_map] at hkeys

/-! ## The world -/

/-- The metadata of a class as an object, told from all others by its number. -/
structure KnownClass (C V : Type) where
  number : Nat
  target : C
  metadata : Metadata V

/-- A cache, how many objects were made, how often the cache was cleared, and how many extractions
since then have not added a class to it. -/
structure ReflectionWorld (C V : Type) where
  cache : MetadataCache C (KnownClass C V)
  made : Nat
  clears : Nat
  strays : Nat

namespace ReflectionWorld

variable {C V : Type}

/-- The cache without its classes. -/
def cleared (w : ReflectionWorld C V) : ReflectionWorld C V :=
  { w with cache := .empty, clears := w.clears + 1, strays := 0 }

/-- An extraction was counted, and failed. -/
def missed (w : ReflectionWorld C V) : ReflectionWorld C V :=
  { w with
    cache := { w.cache with extractions := w.cache.extractions + 1 }
    strays := w.strays + 1 }

/-- How looking at an instance of a class may end: with what is seen, or a fault. It asks nothing of
the cache. -/
abbrev Looks (C V : Type) : Type :=
  C → Except Fault (Subject V) → Prop

section Asking

variable (name : C → String) (reader : String → TypeExpr) (shows : Looks C V)
  (code : Possibly (ReflectionWorld C V) Unit)

/-- An instance of a class is made and looked at. -/
def look (c : C) : Possibly (ReflectionWorld C V) (Except Fault (Subject V)) := do
  anything code
  choose fun seen : { seen // shows c seen } => pure seen.1

variable [DecidableEq C]

/-- An extraction was counted, and its class is remembered. -/
def remembered (w : ReflectionWorld C V) (c : C) (md : Metadata V) : ReflectionWorld C V :=
  { w with
    cache := ⟨Entries.put w.cache.entries c ⟨w.made, c, md⟩, w.cache.extractions + 1⟩
    made := w.made + 1
    strays := if (w.cache.entries.lookup c).isSome then w.strays + 1 else w.strays }

/-- The metadata of a class as a new object. -/
def extract (c : C) (seen : Except Fault (Subject V)) :
    Possibly (ReflectionWorld C V) (KnownClass C V) := do
  match seen >>= (·.extract reader) with
  | .error fault =>
    change fun w => { w with strays := w.strays + 1 }
    throwThe Fault fault
  | .ok md =>
    let number ← read made
    change fun w =>
      { w with
        made := w.made + 1
        strays := if (w.cache.entries.lookup c).isSome then w.strays + 1 else w.strays }
    return ⟨number, c, md⟩

/-- The metadata of a class. -/
def metadataFor : C → Possibly (ReflectionWorld C V) (KnownClass C V) :=
  MetadataCache.metadataFor (cell cache fun cache w => { w with cache }) (fun c => pure (name c))
    (look shows code) (extract reader)

end Asking

/-! ## Operations -/

/-- What is asked for, by whoever works with the cache or by a constructor. -/
inductive Operation (C : Type) where
  | ask (c : C)
  /-- The metadata of what is no class is asked for. -/
  | askOther (d : Datum)
  | clear

variable [DecidableEq C] (name : C → String) (reader : String → TypeExpr) (shows : Looks C V)

/-- What the operation does among classes whose constructors do `code`. -/
def Operation.run (code : Possibly (ReflectionWorld C V) Unit) :
    Operation C → Possibly (ReflectionWorld C V) Unit
  | ask c => do let _ ← metadataFor name reader shows code c
  | askOther d => throwThe Fault (.about .notClass d)
  | clear => change cleared

/-- All that a constructor may do if it asks for such operations only, and if calls are nested to a
depth: any of them, one after another, whether or not they fail. -/
def behave (asked : Operation C → Prop) : (depth : Nat) → Possibly (ReflectionWorld C V) Unit
  | 0 => pure ()
  | n + 1 => often (anything (choose fun op : { op : Operation C // asked op } =>
      op.1.run name reader shows (behave asked n)))

/-- What the operation may come to, however deeply constructors ask for others. -/
def Operation.possibly (asked : Operation C → Prop) (op : Operation C) :
    Possibly (ReflectionWorld C V) Unit :=
  choose fun depth => op.run name reader shows (behave name reader shows asked depth)

/-- The world before anything was asked for. -/
def fresh : ReflectionWorld C V := ⟨.empty, 0, 0, 0⟩

/-- Nothing was asked for yet. -/
structure IsNew (w : ReflectionWorld C V) : Prop where
  cache : w.cache = .empty
  strays : w.strays = 0

/-! ## One question -/

variable {name reader shows} {code : Possibly (ReflectionWorld C V) Unit}
  {w t u : ReflectionWorld C V} {c : C}

/-- A class that is remembered is not looked at again. -/
theorem metadataFor_of_lookup {known : KnownClass C V} (h : w.cache.entries.lookup c = some known) :
    Ends (metadataFor name reader shows code c) w known w := by
  refine .bind (.read _ w) ?_
  rw [h]
  exact .pure known w

/-- An instance of the class is seen, but its metadata cannot be extracted. -/
def IsStray (reader : String → TypeExpr) (shows : Looks C V) (c : C) (fault : Fault) : Prop :=
  ∃ seen, shows c seen ∧ seen >>= (·.extract reader) = .error fault

/-- How asking for a class that is not remembered ends, from where its constructor left off. -/
inductive Answers (name : C → String) (reader : String → TypeExpr) (shows : Looks C V) (c : C)
    (u : ReflectionWorld C V) : Except Fault (KnownClass C V) × ReflectionWorld C V → Prop where
  /-- No instance was made. -/
  | unmade (cause : Fault) : Answers name reader shows c u (.error (.reflection (name c) cause), u)
  /-- The extraction is counted, and fails. -/
  | stray {fault : Fault} (h : IsStray reader shows c fault) :
    Answers name reader shows c u (.error fault, u.missed)
  /-- The extraction is counted, and adds the class. -/
  | found {s : Subject V} {md : Metadata V} (hshows : shows c (.ok s))
      (hmd : s.extract reader = .ok md) :
    Answers name reader shows c u (.ok ⟨u.made, c, md⟩, u.remembered c md)

theorem extract_of_error {seen : Except Fault (Subject V)} {fault : Fault}
    (h : seen >>= (·.extract reader) = .error fault) (w : ReflectionWorld C V) :
    Breaks (extract reader c seen) w fault { w with strays := w.strays + 1 } := by
  rw [extract, h]
  exact Ends.bind_breaks (.change _ w) (.throw fault _)

theorem extract_of_ok {seen : Except Fault (Subject V)} {md : Metadata V}
    (h : seen >>= (·.extract reader) = .ok md) (w : ReflectionWorld C V) :
    Ends (extract reader c seen) w ⟨w.made, c, md⟩
      { w with
        made := w.made + 1
        strays := if (w.cache.entries.lookup c).isSome then w.strays + 1 else w.strays } := by
  rw [extract, h]
  exact .bind (.read _ w) (.bind (.change _ w) (.pure _ _))

/-- Of what is seen, the metadata is extracted and remembered, which is counted first. -/
theorem extract_iff {seen : Except Fault (Subject V)}
    {e : Except Fault (KnownClass C V) × ReflectionWorld C V} :
    (do
      (cell cache fun cache (w : ReflectionWorld C V) => { w with cache }).modify fun s =>
        { s with extractions := s.extractions + 1 }
      let md ← extract reader c seen
      (cell cache fun cache w => { w with cache }).modify fun s =>
        { s with entries := Entries.put s.entries c md }
      return md) u e ↔
      e = match seen >>= (·.extract reader) with
        | .error fault => (.error fault, u.missed)
        | .ok md => (.ok ⟨u.made, c, md⟩, u.remembered c md) := by
  refine (Ends.modify _ _ _ u).bind_iff.trans ?_
  cases hmd : seen >>= (·.extract reader) with
  | error fault => exact (extract_of_error hmd _).bind e
  | ok md =>
    refine (extract_of_ok hmd _).bind ?_ e
    refine Ends.bind (.modify _ _ _ _) ?_
    exact .pure _ _

omit [DecidableEq C] in
/-- An instance is seen from where its constructor left off, or none was made. -/
theorem look_iff {outcome : Except Fault (Except Fault (Subject V))} :
    (tryCatchThe Fault (look shows code c) fun cause => do
      throw (.reflection (← pure (name c)) cause)) w (outcome, u) ↔
      (∃ ended, code w (ended, u)) ∧ match outcome with
        | .ok seen => shows c seen
        | .error fault => ∃ cause, fault = .reflection (name c) cause := by
  constructor
  · rintro ⟨inner, v, hlook, hcaught⟩
    obtain ⟨cause, rfl, hcode⟩ | ⟨_, v, hcode, seen, hseen⟩ := bind_cases hlook
    · obtain ⟨rfl, rfl⟩ := Prod.mk.inj (read_bind.1 hcaught)
      exact ⟨hcode, cause, rfl⟩
    · obtain ⟨rfl, rfl⟩ := Prod.mk.inj hseen
      obtain ⟨rfl, rfl⟩ := Prod.mk.inj hcaught
      exact ⟨hcode, seen.2⟩
  · rintro ⟨hcode, hseen⟩
    cases outcome with
    | error fault =>
      obtain ⟨cause, rfl⟩ := hseen
      exact ⟨.error cause, u, ⟨.error cause, u, hcode, rfl⟩, read_bind.2 rfl⟩
    | ok seen => exact ⟨.ok seen, u, ⟨.ok (), u, hcode, ⟨seen, hseen⟩, rfl⟩, rfl⟩

/-- Asking for a class that is not remembered runs its constructor first. -/
theorem metadataFor_iff (h : w.cache.entries.lookup c = none)
    {e : Except Fault (KnownClass C V) × ReflectionWorld C V} :
    metadataFor name reader shows code c w e ↔
      ∃ outcome u, code w (outcome, u) ∧ Answers name reader shows c u e := by
  rw [metadataFor, MetadataCache.metadataFor]
  refine read_bind.trans ?_
  rw [h]
  constructor
  · rintro ⟨outcome, u, hlook, hrest⟩
    obtain ⟨⟨ended, hcode⟩, hseen⟩ := look_iff.1 hlook
    refine ⟨ended, u, hcode, ?_⟩
    cases outcome with
    | error fault =>
      obtain ⟨cause, rfl⟩ := hseen
      obtain rfl := hrest
      exact .unmade cause
    | ok seen =>
      obtain rfl := extract_iff.1 hrest
      cases hmd : seen >>= (·.extract reader) with
      | error fault => exact .stray ⟨seen, hseen, hmd⟩
      | ok md =>
        obtain ⟨s, rfl, hextract⟩ := bind_eq_ok_iff.1 hmd
        exact .found hseen hextract
  · rintro ⟨ended, u, hcode, hanswer⟩
    cases hanswer with
    | unmade cause =>
      refine ⟨.error (.reflection (name c) cause), u, look_iff.2 ?_, rfl⟩
      exact ⟨⟨ended, hcode⟩, cause, rfl⟩
    | stray hstray =>
      obtain ⟨seen, hseen, hmd⟩ := hstray
      refine ⟨.ok seen, u, look_iff.2 ⟨⟨ended, hcode⟩, hseen⟩, extract_iff.2 ?_⟩
      rw [hmd]
    | @found s md hshows hmd =>
      have hseen : (.ok s : Except Fault (Subject V)) >>= (·.extract reader) = .ok md := hmd
      refine ⟨.ok (.ok s), u, look_iff.2 ⟨⟨ended, hcode⟩, hshows⟩, extract_iff.2 ?_⟩
      rw [hseen]

/-! ## What is kept -/

/-- Metadata was extracted from an instance of the class. -/
def IsOf (reader : String → TypeExpr) (shows : Looks C V) (c : C) (known : KnownClass C V) : Prop :=
  known.target = c ∧ ∃ s, shows c (.ok s) ∧ s.extract reader = .ok known.metadata

/-- What is remembered is what was extracted, and each extraction is a class that is remembered or a
stray. -/
structure IsSound (reader : String → TypeExpr) (shows : Looks C V) (w : ReflectionWorld C V) :
    Prop where
  nodup : (w.cache.entries.map (·.1)).Nodup
  found : ∀ {c known}, w.cache.entries.lookup c = some known → IsOf reader shows c known
  counted : w.cache.extractions = w.cache.entries.length + w.strays

/-- What is sound stays so, and until the cache is cleared the classes stay with their metadata. -/
structure Leads (reader : String → TypeExpr) (shows : Looks C V) (w t : ReflectionWorld C V) :
    Prop where
  sound : w.IsSound reader shows → t.IsSound reader shows
  clears : w.clears ≤ t.clears
  kept : t.clears = w.clears → ∀ {c known}, w.cache.entries.lookup c = some known →
    t.cache.entries.lookup c = some known

theorem leads_isStep : IsStep (Leads reader shows) where
  refl w := ⟨id, Nat.le_refl _, fun _ _ _ h => h⟩
  trans {s t u} h₁ h₂ := by
    refine ⟨h₂.sound ∘ h₁.sound, Nat.le_trans h₁.clears h₂.clears, fun h _ _ hknown => ?_⟩
    have hfirst : t.clears = s.clears := by
      have := h₁.clears
      have := h₂.clears
      omega
    exact h₂.kept (h.trans hfirst.symm) (h₁.kept hfirst hknown)

theorem IsNew.isSound (h : w.IsNew) : w.IsSound reader shows where
  nodup := by
    rw [h.cache]
    exact List.nodup_nil
  found hknown := by
    rw [h.cache] at hknown
    cases hknown
  counted := by
    rw [h.cache, h.strays]
    rfl

theorem leads_cleared (w : ReflectionWorld C V) : w.Leads reader shows w.cleared where
  sound _ := ⟨List.nodup_nil, fun h => (by cases h), rfl⟩
  clears := Nat.le_succ _
  kept h := absurd h (Nat.succ_ne_self _)

theorem leads_missed (w : ReflectionWorld C V) : w.Leads reader shows w.missed where
  sound hw := ⟨hw.nodup, hw.found, by rw [missed]; have := hw.counted; dsimp only; omega⟩
  clears := Nat.le_refl _
  kept _ _ _ := id

/-- A class that came in meanwhile gets other metadata, and its first extraction is a stray. -/
theorem IsSound.remembered (hw : w.IsSound reader shows) {s : Subject V} {md : Metadata V}
    (hshows : shows c (.ok s)) (hmd : s.extract reader = .ok md) :
    (w.remembered c md).IsSound reader shows where
  nodup := Entries.nodup_keys_put c _ hw.nodup
  found {d known} hknown := by
    by_cases hd : d = c
    · subst hd
      obtain rfl := Option.some.inj ((Entries.lookup_put_self _ _ _).symm.trans hknown)
      exact ⟨rfl, s, hshows, hmd⟩
    · exact hw.found ((Entries.lookup_put_of_ne _ _ hd).symm.trans hknown)
  counted := by
    have hcounted := hw.counted
    unfold ReflectionWorld.remembered
    dsimp only
    rw [Entries.length_put]
    split <;> omega

/-- Asking for a class keeps what is sound, as its constructor does. What is remembered may change
meanwhile, but not for a class that was remembered before. -/
theorem metadataFor_advances (hcode : Advances (Leads reader shows) code) (c : C) :
    Advances (Leads reader shows) (metadataFor name reader shows code c) := by
  intro w outcome t hrun
  cases hknown : w.cache.entries.lookup c with
  | some known =>
    obtain ⟨-, rfl⟩ := Prod.mk.inj ((metadataFor_of_lookup hknown _).1 hrun)
    exact leads_isStep.refl t
  | none =>
    obtain ⟨ended, u, hended, hanswer⟩ := (metadataFor_iff hknown).1 hrun
    have hu := hcode w ended u hended
    cases hanswer with
    | unmade cause => exact hu
    | stray hstray => exact leads_isStep.trans hu (leads_missed u)
    | found hshows hmd =>
      refine ⟨fun hw => (hu.sound hw).remembered hshows hmd, hu.clears, fun h d known hd => ?_⟩
      have hne : d ≠ c := by
        rintro rfl
        cases hknown.symm.trans hd
      exact (Entries.lookup_put_of_ne _ _ hne).trans (hu.kept h hd)

theorem Operation.run_advances (hcode : Advances (Leads reader shows) code) (op : Operation C) :
    Advances (Leads reader shows) (op.run name reader shows code) := by
  cases op with
  | ask c => exact .bind leads_isStep (metadataFor_advances hcode c) fun _ => .pure leads_isStep ()
  | askOther d => exact .throw leads_isStep _
  | clear => exact .change leads_cleared

theorem behave_advances (asked : Operation C → Prop) (depth : Nat) :
    Advances (Leads reader shows) (behave name reader shows asked depth) := by
  induction depth with
  | zero => exact .pure leads_isStep ()
  | succ n ih => exact .often leads_isStep (.anything (.choose fun op => op.1.run_advances ih))

theorem leads_of_runs {asked : Operation C → Prop} {ops : List (Operation C)}
    (hrun : Runs (Operation.possibly name reader shows asked) ops w t) : w.Leads reader shows t :=
  hrun.advances leads_isStep fun op _ => .choose fun depth =>
    op.run_advances (behave_advances asked depth)

/-- Constructors that ask for nothing leave everything as it is. -/
theorem behave_of_nothing {asked : Operation C → Prop} (h : ∀ op, ¬ asked op) (depth : Nat) :
    Advances (fun s t => t = s) (behave name reader shows asked depth) := by
  have hstep : IsStep fun s t : ReflectionWorld C V => t = s :=
    ⟨fun _ => rfl, fun h₁ h₂ => h₂.trans h₁⟩
  cases depth with
  | zero => exact .pure hstep ()
  | succ n => exact .often hstep (.anything (.choose fun op => (h op.1 op.2).elim))

/-! ## Strays -/

/-- However an instance of the class is seen, all that is read of its names can be. -/
def IsRevealed (shows : Looks C V) (c : C) : Prop :=
  ∀ seen, shows c seen → ∃ s, seen = .ok s ∧ ∀ n kind, s.Shows n kind → s.CanShow n kind

omit [DecidableEq C] in
theorem exists_isStray_iff : (∃ fault, IsStray reader shows c fault) ↔ ¬ IsRevealed shows c := by
  unfold IsStray IsRevealed
  push Not
  rw [exists_comm]
  refine exists_congr fun seen => ?_
  rw [exists_and_left]
  refine and_congr_right fun _ => ?_
  cases seen with
  | error fault => exact ⟨fun _ _ h => (by cases h), fun _ => ⟨fault, rfl⟩⟩
  | ok s =>
    have hfails : (∃ fault, s.extract reader = .error fault) ↔
        ¬ ∃ md, s.extract reader = .ok md := by
      cases s.extract reader with
      | error fault => exact ⟨fun _ ⟨_, h⟩ => (by cases h), fun _ => ⟨fault, rfl⟩⟩
      | ok md => exact ⟨fun ⟨_, h⟩ => (by cases h), fun h => absurd ⟨md, rfl⟩ h⟩
    refine hfails.trans ?_
    rw [Subject.exists_extract_iff]
    push Not
    exact ⟨fun h _ hs => Except.ok.inj hs ▸ h, fun h => h s rfl⟩

omit [DecidableEq C] in
/-- A stray fails as looking at the instance does, or as reading what cannot be read does. -/
theorem IsStray.cases {fault : Fault} (h : IsStray reader shows c fault) :
    shows c (.error fault) ∨ Subject.IsReadingFault fault := by
  obtain ⟨seen, hseen, hmd⟩ := h
  cases seen with
  | error other => exact .inl (Except.error.inj hmd ▸ hseen)
  | ok s => exact .inr (Subject.extract_failsOnly fault hmd)

/-- Where constructors ask for nothing and all that is read of a class can be, asking for it is no
stray. -/
theorem metadataFor_strays {asked : Operation C → Prop} (h : ∀ op, ¬ asked op)
    (hc : IsRevealed shows c) (depth : Nat) :
    Advances (fun s t => s.strays = 0 → t.strays = 0)
      (metadataFor name reader shows (behave name reader shows asked depth) c) := by
  intro w outcome t hrun hw
  cases hknown : w.cache.entries.lookup c with
  | some known =>
    obtain ⟨-, rfl⟩ := Prod.mk.inj ((metadataFor_of_lookup hknown _).1 hrun)
    exact hw
  | none =>
    obtain ⟨ended, u, hcode, hanswer⟩ := (metadataFor_iff hknown).1 hrun
    obtain rfl := behave_of_nothing h depth w ended u hcode
    cases hanswer with
    | unmade cause => exact hw
    | stray hstray => exact absurd hc (exists_isStray_iff.1 ⟨_, hstray⟩)
    | found hshows hmd =>
      rw [remembered, hknown]
      exact hw

theorem Operation.run_strays {asked : Operation C → Prop} (h : ∀ op, ¬ asked op) {op : Operation C}
    (hop : ∀ c, op = .ask c → IsRevealed shows c) (depth : Nat) :
    Advances (fun s t => s.strays = 0 → t.strays = 0)
      (op.run name reader shows (behave name reader shows asked depth)) := by
  have hstep : IsStep fun s t : ReflectionWorld C V => s.strays = 0 → t.strays = 0 :=
    .of_invariant fun w : ReflectionWorld C V => w.strays = 0
  cases op with
  | ask c => exact .bind hstep (metadataFor_strays h (hop c rfl) depth) fun _ => .pure hstep ()
  | askOther d => exact .throw hstep _
  | clear =>
    intro w outcome t hrun _
    obtain ⟨-, rfl⟩ := Prod.mk.inj hrun
    rfl

/-! ## Every run -/

/-- The class is remembered with metadata that was extracted from an instance of it. This is given
for it each time, without another look, and stays until the cache is cleared. -/
structure Stands (name : C → String) (reader : String → TypeExpr) (shows : Looks C V)
    (asked : Operation C → Prop) (w : ReflectionWorld C V) (c : C) (known : KnownClass C V) :
    Prop where
  extracted : IsOf reader shows c known
  given : ∀ depth,
    Ends (metadataFor name reader shows (behave name reader shows asked depth) c) w known w
  kept : ∀ more t, Runs (Operation.possibly name reader shows asked) more w t →
    t.clears = w.clears → t.cache.entries.lookup c = some known

/-- What the cache holds and how it answers, after the operations `ops`. -/
structure IsAccounted (name : C → String) (reader : String → TypeExpr) (shows : Looks C V)
    (asked : Operation C → Prop) (ops : List (Operation C)) (w : ReflectionWorld C V) : Prop where
  nodup : (w.cache.entries.map (·.1)).Nodup
  /-- A class is remembered for each extraction that was counted, except for strays. -/
  counted : w.cache.extractions = w.cache.entries.length + w.strays
  /-- There are no strays where constructors ask for nothing and all classes can be read. -/
  noStrays : (∀ op, ¬ asked op) → (∀ c, .ask c ∈ ops → IsRevealed shows c) → w.strays = 0
  known : ∀ c known, w.cache.entries.lookup c = some known →
    Stands name reader shows asked w c known
  /-- Otherwise the answer is one of three, from where the constructor left off. -/
  answers : ∀ c, w.cache.entries.lookup c = none → ∀ depth e,
    metadataFor name reader shows (behave name reader shows asked depth) c w e ↔
      ∃ outcome u, behave name reader shows asked depth w (outcome, u) ∧
        Answers name reader shows c u e
  /-- A constructor that asks for nothing leaves off where it began. -/
  quiet : (∀ op, ¬ asked op) → ∀ depth outcome u,
    behave name reader shows asked depth w (outcome, u) → u = w
  strays : ∀ c, (∃ fault, IsStray reader shows c fault) ↔ ¬ IsRevealed shows c
  strayFaults : ∀ c fault, IsStray reader shows c fault →
    shows c (.error fault) ∨ Subject.IsReadingFault fault
  /-- What is no class is refused, and leaves everything as it is. -/
  noClass : ∀ d depth, Breaks (Operation.run name reader shows
    (behave name reader shows asked depth) (.askOther d)) w (.about .notClass d) w

/-- A class is remembered for each extraction that was counted, except for strays, and stays with
its metadata until the cache is cleared. A call that fails leaves the cache as the constructor left
it, and fails because no instance was made, unless it is a stray, which counts an extraction. There
are strays of a class if and only if its instances may be seen with something said of a shown name
that cannot be read, or looking at them may fail. -/
theorem leaves_no_trace_unless_stray {asked : Operation C → Prop} {ops : List (Operation C)}
    {s w : ReflectionWorld C V} (hs : s.IsNew)
    (hrun : Runs (Operation.possibly name reader shows asked) ops s w) :
    IsAccounted name reader shows asked ops w := by
  have hsound := (leads_of_runs hrun).sound hs.isSound
  constructor
  case nodup => exact hsound.nodup
  case counted => exact hsound.counted
  case noStrays =>
    intro h hops
    refine hrun.advances (.of_invariant fun w => w.strays = 0) (fun op hop => .choose fun n => ?_)
      hs.strays
    exact op.run_strays h (fun c hc => hops c (hc ▸ hop)) n
  case known =>
    intro c known hknown
    refine ⟨hsound.found hknown, fun depth => metadataFor_of_lookup hknown, fun more t hmore h => ?_⟩
    exact (leads_of_runs hmore).kept h hknown
  case answers => exact fun c hnew depth e => metadataFor_iff hnew
  case quiet => exact fun h depth outcome u => behave_of_nothing h depth w outcome u
  case strays => exact fun c => exists_isStray_iff
  case strayFaults => exact fun c fault => IsStray.cases
  case noClass => exact fun d depth => .throw _ w

/-! ## Notes -/

/-- A note whose class has a table that says `doc` about the text. -/
def noteWith (doc : Datum) : Subject Unit :=
  ⟨[⟨none, [], [], [("text", .record [("doc", doc)])], []⟩], [("text", .value "string")]⟩

/-- Two classes of notes, the documentation of the second one being a number. -/
def showNotes : Looks Bool Unit :=
  fun c seen => seen = .ok (noteWith (if c then .int 5 else .text "the text"))

theorem shows_noteWith {doc : Datum} {n : String} {kind : MemberKind} :
    (noteWith doc).Shows n kind ↔ n = "text" ∧ kind = .property := by
  have hno (kind : MemberKind) : ¬ (noteWith doc).ClassKind n kind := by
    rintro ⟨member, hmember, -⟩
    cases (show (n, member) ∈ [] from hmember)
  constructor
  · rintro (hclass | ⟨-, -, view, hview, rfl⟩)
    · exact absurd hclass (hno kind)
    · obtain ⟨rfl, rfl⟩ := Prod.mk.inj (List.mem_singleton.1 hview)
      exact ⟨rfl, rfl⟩
  · rintro ⟨rfl, rfl⟩
    have hpublic : isPrivate "text" = false := by decide +kernel
    exact .inr ⟨hpublic, hno .computed, _, List.mem_cons_self, rfl⟩

/-- A text as documentation is all that is read of such a note. -/
theorem canShow_noteWith (text : String) {n : String} {kind : MemberKind}
    (h : (noteWith (.text text)).Shows n kind) : (noteWith (.text text)).CanShow n kind := by
  obtain ⟨rfl, rfl⟩ := shows_noteWith.1 h
  refine ⟨.inl ⟨text, rfl⟩, fun key hkey d hd => ?_⟩
  have hother : key ≠ "doc" := by
    rintro rfl
    revert hkey
    decide
  have hnone : (noteWith (.text text)).tableEntry "text" = [("doc", .text text)] := rfl
  rw [hnone, List.lookup_cons, beq_eq_false_iff_ne.2 hother] at hd
  cases hd

theorem isRevealed_showNotes {c : Bool} : IsRevealed showNotes c ↔ c = false := by
  cases c with
  | false =>
    refine ⟨fun _ => rfl, ?_⟩
    rintro - seen rfl
    exact ⟨_, rfl, fun n kind => canShow_noteWith "the text"⟩
  | true =>
    refine ⟨fun h => ?_, fun h => (by cases h)⟩
    obtain ⟨s, hs, hreadable⟩ := h _ rfl
    obtain rfl := Except.ok.inj hs
    obtain ⟨t, ht⟩ | hno := (hreadable "text" .property (shows_noteWith.2 ⟨rfl, rfl⟩)).doc
    · cases (show Datum.int 5 = .text t from ht)
    · cases (show some true = some false from hno)

/-- Calls for both classes are counted, and only the first class is remembered, with the same
metadata from then on. -/
theorem number_counted_as_documentation :
    IsNew (fresh : ReflectionWorld Bool Unit) ∧ ∃ (known : KnownClass Bool Unit) (w : _),
      Runs (Operation.possibly (fun _ => "Note") .scalar showNotes fun _ => False)
        [.ask false, .ask true] fresh w ∧
      w.cache.extractions = w.cache.entries.length + 1 ∧ known.target = false ∧
      Ends (metadataFor (fun _ => "Note") .scalar showNotes (pure ()) false) w known w := by
  have hnew : IsNew (fresh : ReflectionWorld Bool Unit) := ⟨rfl, rfl⟩
  obtain ⟨md, hmd⟩ : ∃ md, (noteWith (.text "the text")).extract .scalar = .ok md :=
    Subject.exists_extract_iff.2 fun n kind => canShow_noteWith "the text"
  obtain ⟨fault, hstray⟩ : ∃ fault, IsStray .scalar showNotes true fault :=
    exists_isStray_iff.2 fun h => nomatch isRevealed_showNotes.1 h
  have hfirst : Operation.possibly (fun _ => "Note") .scalar showNotes (fun _ => False) (.ask false)
      fresh (.ok (), fresh.remembered false md) := by
    refine ⟨0, .ok ⟨0, false, md⟩, _, (metadataFor_iff rfl).2 ?_, rfl⟩
    exact ⟨.ok (), fresh, rfl, .found rfl hmd⟩
  have hsecond : Operation.possibly (fun _ => "Note") .scalar showNotes (fun _ => False) (.ask true)
      (fresh.remembered false md) (.error fault, (fresh.remembered false md).missed) := by
    refine ⟨0, .error fault, _, (metadataFor_iff rfl).2 ?_, rfl⟩
    exact ⟨.ok (), fresh.remembered false md, rfl, .stray hstray⟩
  have hrun := Runs.cons hfirst (.cons hsecond (.nil _))
  have haccount := leaves_no_trace_unless_stray hnew hrun
  have hstands := haccount.known false ⟨0, false, md⟩ rfl
  exact ⟨hnew, _, _, hrun, haccount.counted, hstands.extracted.1, hstands.given 0⟩

end ReflectionWorld

end SceneBridge
