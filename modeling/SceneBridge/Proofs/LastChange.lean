import SceneBridge.Proofs.FailingConversions
import SceneBridge.Proofs.PlainTarget

/-!
# The last change reaches the target

What a plain target shows of the values that are written to the properties of its adapter. A value
counts as a change if it differs from the one that the adapter keeps; only changes are handed out by
an update, which then converts the value that the adapter keeps at that time. Nobody has subscribed
to the adapter.
-/

namespace SceneBridge.PlainWorld

open Possibly

variable {V : Type} {H : Handling V} {d : AdapterDefinition (Held V)} {v w x : PlainWorld V}

/-! ## Histories -/

namespace Operation

/-- The value that the operation writes to a property. -/
def written? (p : String) : Operation V → Option (Held V)
  | setProperty name x => if name = p then some x else none
  | _ => none

end Operation

open PlainWorld.Operation

/-- The value of a property after some operations, if it was `old` before them. -/
def lastWritten (p : String) (old : Held V) (ops : List (Operation V)) : Held V :=
  ops.foldl (fun old op => (op.written? p).getD old) old

/-- Does one of the operations change a property, if its value was `old` before them? -/
def changes (H : Handling V) (rs : Records V) (p : String) : Held V → List (Operation V) → Bool
  | _, [] => false
  | old, op :: ops =>
    match op.written? p with
    | some x => H.differs rs old x || changes H rs p x ops
    | none => changes H rs p old ops

theorem lastWritten_append (p : String) (old : Held V) (ops more : List (Operation V)) :
    lastWritten p old (ops ++ more) = lastWritten p (lastWritten p old ops) more :=
  List.foldl_append

theorem changes_append (H : Handling V) (rs : Records V) (p : String) (old : Held V)
    (ops more : List (Operation V)) :
    changes H rs p old (ops ++ more) =
      (changes H rs p old ops || changes H rs p (lastWritten p old ops) more) := by
  induction ops generalizing old with
  | nil => rfl
  | cons op ops ih =>
    rw [List.cons_append, changes, changes, lastWritten, List.foldl_cons, ← lastWritten]
    cases op.written? p with
    | some x =>
      dsimp only
      rw [ih, Bool.or_assoc, Option.getD_some]
    | none => exact ih old

/-! ## Properties of which an update writes the value -/

/-- The property is one that is written to the target as a whole. -/
structure IsWhole (d : AdapterDefinition (Held V)) (name : String) (info : PropertyInfo) : Prop
    extends IsPlain d name info where
  stored : d.metadata.computed.lookup name = none
  noRecord : ∀ fields, info.type ≠ .record fields

/-- The operation flushes, or writes such a property. -/
def Operation.IsSimple (d : AdapterDefinition (Held V)) : Operation V → Prop
  | setProperty name _ => ∃ info, IsWhole d name info
  | setAttribute _ _ => False
  | flush _ => True

/-- The outcome is no failure, or the failure of a conversion. -/
def IsSmooth {α : Type} (outcome : Except Fault α) : Prop :=
  ∀ f, outcome = .error f → f.kind = .conversion

/-- What the operation comes to, as long as it fails with nothing but a conversion. -/
def Operation.smoothly (H : Handling V) (d : AdapterDefinition (Held V)) (op : Operation V) :
    Possibly (PlainWorld V) Unit :=
  fun w e => op.run H d w e ∧ IsSmooth e.1

/-- The adapter has its target, the records are `rs`, and what has changed are properties that are
written as a whole. -/
structure IsUnderway (d : AdapterDefinition (Held V)) (rs : Records V) (w : PlainWorld V) :
    Prop where
  target : w.state.target = some .target
  records : w.records = rs
  changed : ∀ name ∈ w.changedNames, ∃ info, IsWhole d name info

variable {rs : Records V}

/-! ## What an update shows -/

theorem applyChange_whole_iff {name : String} {info : PropertyInfo} (h : IsWhole d name info)
    {e : Except Fault (Option Fault) × PlainWorld V} :
    (notingAdapter H d).applyChange .target name w e ↔
      match w.converted H name info with
      | .error f => if f.kind = .conversion then e = (.ok (some f), w) else e = (.error f, w)
      | .ok c => e = (.ok none, w.put name c) := by
  rw [applyChange_iff h.toIsPlain]
  cases w.converted H name info with
  | error f => rfl
  | ok c =>
    have hnone := h.noRecord
    dsimp only
    split
    · rename_i fields _ htype _
      exact absurd htype (hnone fields)
    · rfl

/-- What the target shows after the changes of some properties were written. -/
structure Shows (H : Handling V) (d : AdapterDefinition (Held V)) (names : List String)
    (w x : PlainWorld V) : Prop where
  records : x.records = w.records
  others : ∀ p ∉ names, x.attributes.lookup p = w.attributes.lookup p
  values : ∀ p ∈ names, ∀ info c, IsWhole d p info → w.converted H p info = .ok c →
    x.attributes.lookup p = some c

theorem IsWhole.unique {name : String} {info other : PropertyInfo} (h : IsWhole d name info)
    (hother : IsWhole d name other) : info = other := by
  have hknown := h.known.symm.trans hother.known
  exact Option.some.inj hknown

theorem Shows.cons {u : PlainWorld V} {name : String} {names : List String}
    (hkept : KeepsAdapter w u) (hfirst : Shows H d [name] w u) (hrest : Shows H d names u x) :
    Shows H d (name :: names) w x where
  records := hrest.records.trans hfirst.records
  others p hp := by
    rw [List.mem_cons, not_or] at hp
    rw [hrest.others p hp.2, hfirst.others p (by simpa using hp.1)]
  values p hp info c hwhole hc := by
    by_cases hlater : p ∈ names
    · -- The adapter and the records are as before, and so is what the value is converted to.
      have hsame : u.converted H p info = w.converted H p info := by
        rw [converted, converted, value, value, hfirst.records, hkept.1]
      exact hrest.values p hlater info c hwhole (hsame.trans hc)
    · have hname : p ∈ [name] := by simpa [hlater] using hp
      rw [hrest.others p hlater]
      exact hfirst.values p hname info c hwhole hc

theorem applyChange_shows {name : String} {info : PropertyInfo} (h : IsWhole d name info)
    {found : Option Fault} (hrun : (notingAdapter H d).applyChange .target name w (.ok found, x)) :
    Shows H d [name] w x := by
  rw [applyChange_whole_iff h] at hrun
  cases hconverted : w.converted H name info with
  | error f =>
    rw [hconverted] at hrun
    dsimp only at hrun
    obtain rfl : x = w := by
      split at hrun
      · exact (Prod.mk.inj hrun).2
      · exact (Prod.mk.inj hrun).2
    refine ⟨rfl, fun _ _ => rfl, fun p hp other c hwhole hc => ?_⟩
    obtain rfl := List.mem_singleton.1 hp
    rw [← h.unique hwhole, hconverted] at hc
    cases hc
  | ok c =>
    rw [hconverted] at hrun
    obtain ⟨-, rfl⟩ := Prod.mk.inj hrun
    refine ⟨rfl, fun p hp => ?_, fun p hp other c' hwhole hc => ?_⟩
    · exact Entries.lookup_put_of_ne _ _ (by simpa using hp)
    · obtain rfl := List.mem_singleton.1 hp
      rw [← h.unique hwhole, hconverted] at hc
      obtain rfl := Except.ok.inj hc
      exact Entries.lookup_put_self _ _ _

theorem applyChange_error_kind {name : String} {info : PropertyInfo} (h : IsWhole d name info)
    {f : Fault} (hrun : (notingAdapter H d).applyChange .target name w (.error f, x)) :
    f.kind ≠ .conversion := by
  rw [applyChange_whole_iff h] at hrun
  split at hrun
  · split at hrun
    · cases hrun
    · obtain ⟨hf, -⟩ := Prod.mk.inj hrun
      cases hf
      assumption
  · cases hrun

theorem Writes.shows {names : List String} {inner : Except Fault (List Fault)}
    (hnames : ∀ name ∈ names, ∃ info, IsWhole d name info) (hsmooth : IsSmooth inner)
    (h : Writes H d names w inner x) : Shows H d names w x := by
  induction names generalizing w inner with
  | nil =>
    obtain ⟨-, rfl⟩ := Prod.mk.inj h
    exact ⟨rfl, fun _ _ => rfl, nofun⟩
  | cons name names ih =>
    obtain ⟨info, hinfo⟩ := hnames name List.mem_cons_self
    have hrest := fun name hname => hnames name (List.mem_cons_of_mem _ hname)
    rcases h.cons with ⟨f, rfl, hfail⟩ | ⟨found, u, rest, hfirst, hwrites, hinner⟩
    · exact absurd (hsmooth f rfl) (applyChange_error_kind hinfo hfail)
    · have hkept : KeepsAdapter w u := applyChange_keepsAdapter _ _ _ _ _ hfirst
      have hlater : IsSmooth rest := by
        rintro f rfl
        exact hsmooth f hinner
      have hshows : Shows H d names u x := ih hrest hlater hwrites
      exact .cons hkept (applyChange_shows hinfo hfirst) hshows

/-! ## Steps -/

theorem value_of_keeps (h : w.element.values = v.element.values) (p : String) :
    w.value H p = v.value H p := by
  rw [value, value, h]

/-- A flush shows what has changed, and leaves nothing waiting. -/
theorem flush_shows {limit : Nat} {outcome : Except Fault Unit} (hlimit : limit ≠ 0)
    (h : IsUnderway d rs w) (hrun : (Operation.flush limit).smoothly H d w (outcome, x)) :
    Shows H d w.changedNames w x ∧ IsUnderway d rs x ∧ x.changedNames = [] ∧
      x.element.values = w.element.values := by
  obtain ⟨hflush, hsmooth⟩ := hrun
  rcases flush_cases h.target hflush with ⟨hidle, rfl⟩ | ⟨inner, u, hwrites, hfail, -, hx⟩
  · have hnone : x.changedNames = [] := hidle.resolve_left hlimit
    refine ⟨⟨rfl, fun _ _ => rfl, fun p hp => ?_⟩, h, hnone, rfl⟩
    rw [hnone] at hp
    cases hp
  · have hinner : IsSmooth inner := fun f hf => hsmooth f (hfail f hf)
    have hshows : Shows H d w.changedNames w.taken u := hwrites.shows h.changed hinner
    obtain ⟨helement, hstate⟩ := hwrites.keepsAdapter
    have hnone : x.changedNames = [] := by
      rw [changedNames, hx.changed, helement]
      rfl
    refine ⟨⟨?_, fun p hp => ?_, fun p hp info c hwhole hc => ?_⟩, ⟨?_, ?_, ?_⟩, hnone, ?_⟩
    · exact hx.records.trans hshows.records
    · rw [hx.attributes]
      exact hshows.others p hp
    · rw [hx.attributes]
      exact hshows.values p hp info c hwhole hc
    · rw [hx.target, hstate]
      exact h.target
    · exact (hx.records.trans hshows.records).trans h.records
    · rw [hnone]
      exact List.forall_mem_nil _
    · rw [hx.values, helement]
      rfl

/-- A write keeps the value, and notes a change if there is one. -/
theorem setProperty_keeps {name : String} {y : Held V} {outcome : Except Fault Unit}
    (h : IsUnderway d rs w) (hname : ∃ info, IsWhole d name info)
    (hrun : (Operation.setProperty name y).smoothly H d w (outcome, x)) :
    x = written H w name y ∧ IsUnderway d rs x ∧ x.attributes = w.attributes := by
  obtain ⟨info, hinfo⟩ := hname
  obtain ⟨-, rfl⟩ := Prod.mk.inj ((setProperty_ends h.target hinfo.stored y _).1 hrun.1)
  refine ⟨rfl, ⟨?_, ?_, fun other hother => ?_⟩, ?_⟩
  · rw [written_keeps (·.state.target) (fun _ _ => rfl) fun _ _ => rfl]
    exact h.target
  · rw [written_keeps (·.records) (fun _ _ => rfl) fun _ _ => rfl]
    exact h.records
  · rcases mem_changedNames_written.1 hother with hother | ⟨rfl, -⟩
    · exact h.changed other hother
    · exact ⟨info, hinfo⟩
  · exact written_keeps (·.attributes) (fun _ _ => rfl) (fun _ _ => rfl) w name y

/-! ## Runs -/

/-- What operations do about a property: the value last written is kept, a change is noted until the
next flush, and the target is left alone as long as there is none. -/
structure Follows (H : Handling V) (d : AdapterDefinition (Held V)) (rs : Records V) (p : String)
    (ops : List (Operation V)) (w x : PlainWorld V) : Prop where
  underway : IsUnderway d rs x
  value : x.value H p = lastWritten p (w.value H p) ops
  quiet : p ∉ w.changedNames → changes H rs p (w.value H p) ops = false →
    p ∉ x.changedNames ∧ x.attributes.lookup p = w.attributes.lookup p
  noted : (∀ op ∈ ops, op.isFlush = false) →
    p ∈ w.changedNames ∨ changes H rs p (w.value H p) ops = true → p ∈ x.changedNames

theorem Follows.trans {u : PlainWorld V} {p : String} {ops more : List (Operation V)}
    (h₁ : Follows H d rs p ops w u) (h₂ : Follows H d rs p more u x) :
    Follows H d rs p (ops ++ more) w x where
  underway := h₂.underway
  value := by rw [h₂.value, h₁.value, lastWritten_append]
  quiet hnone hsame := by
    rw [changes_append, Bool.or_eq_false_iff, ← h₁.value] at hsame
    obtain ⟨hidle, hshown⟩ := h₁.quiet hnone hsame.1
    obtain ⟨hlast, hkept⟩ := h₂.quiet hidle hsame.2
    exact ⟨hlast, hkept.trans hshown⟩
  noted hflush hnoted := by
    obtain ⟨hfirst, hrest⟩ := List.forall_mem_append.1 hflush
    refine h₂.noted hrest ?_
    rw [changes_append, Bool.or_eq_true, ← h₁.value, ← or_assoc] at hnoted
    exact hnoted.imp_left (h₁.noted hfirst)

theorem setProperty_follows {name : String} {y : Held V} {outcome : Except Fault Unit}
    (h : IsUnderway d rs w) (hname : ∃ info, IsWhole d name info)
    (hrun : (Operation.setProperty name y).smoothly H d w (outcome, x)) (p : String) :
    Follows H d rs p [.setProperty name y] w x := by
  obtain ⟨rfl, hunderway, hattributes⟩ := setProperty_keeps h hname hrun
  have hchanges : changes H rs p (w.value H p) [.setProperty name y] = true ↔
      p = name ∧ H.differs w.records (w.value H name) y = true := by
    rw [h.records]
    by_cases hp : name = p
    · subst hp
      simp [changes, written?]
    · simp [changes, written?, hp, Ne.symm hp]
  refine ⟨hunderway, ?_, fun hnone hsame => ⟨?_, ?_⟩, fun _ hnoted => ?_⟩
  · rw [written_value]
    by_cases hp : name = p
    · simp [lastWritten, written?, hp]
    · simp [lastWritten, written?, hp, Ne.symm hp]
  · rw [mem_changedNames_written, ← hchanges]
    simp [hnone, hsame]
  · rw [hattributes]
  · rw [mem_changedNames_written, ← hchanges]
    exact hnoted

theorem flush_follows {limit : Nat} {outcome : Except Fault Unit} (h : IsUnderway d rs w)
    (hrun : (Operation.flush limit).smoothly H d w (outcome, x)) (p : String) :
    Follows H d rs p [.flush limit] w x := by
  cases limit with
  | zero =>
    obtain ⟨-, rfl⟩ := Prod.mk.inj ((run_flush_ends_of_idle (.inl rfl) _).1 hrun.1)
    exact ⟨h, rfl, fun hp _ => ⟨hp, rfl⟩, by simp [isFlush]⟩
  | succ n =>
    obtain ⟨hshows, hunderway, hidle, hvalues⟩ := flush_shows n.succ_ne_zero h hrun
    refine ⟨hunderway, value_of_keeps hvalues p, fun hp _ => ⟨?_, hshows.others p hp⟩,
      by simp [isFlush]⟩
    rw [hidle]
    exact List.not_mem_nil

theorem runs_follow {ops : List (Operation V)} (h : IsUnderway d rs w)
    (hsimple : ∀ op ∈ ops, op.IsSimple d) (hrun : Runs (Operation.smoothly H d) ops w x)
    (p : String) : Follows H d rs p ops w x := by
  induction hrun with
  | nil w => exact ⟨h, rfl, fun hp _ => ⟨hp, rfl⟩, by simp [changes]⟩
  | @cons op ops w u x outcome hfirst _ ih =>
    obtain ⟨hop, hops⟩ := List.forall_mem_cons.1 hsimple
    have hstep : Follows H d rs p [op] w u := by
      cases op with
      | setProperty name y => exact setProperty_follows h hop hfirst p
      | setAttribute attr text => cases hop
      | flush limit => exact flush_follows h hfirst p
    exact hstep.trans (ih hstep.underway hops)

/-! ## The last change -/

/-- The adapter has its target, and no change is waiting. -/
structure IsIdle (w : PlainWorld V) : Prop where
  target : w.state.target = some .target
  changed : w.changedNames = []

/-- Values are written to properties of an adapter without subscribers, and flushed now and then. If
a property was changed since the flush before, and is not changed later, the target has what the
value last written to it before the flush is converted to. If it was never changed, the target has
what it had. -/
theorem last_change_reaches_target {before span after : List (Operation V)} {limit : Nat}
    (hlimit : limit ≠ 0) (hidle : IsIdle w)
    (hsimple : ∀ op ∈ before ++ span ++ .flush limit :: after, op.IsSimple d)
    (hspan : ∀ op ∈ span, op.isFlush = false)
    (hrun : Runs (Operation.smoothly H d) (before ++ span ++ .flush limit :: after) w x)
    {p : String} {info : PropertyInfo} (hp : IsWhole d p info)
    (hlater : changes H w.records p (lastWritten p (w.value H p) (before ++ span)) after = false) :
    (changes H w.records p (lastWritten p (w.value H p) before) span = true → ∀ c,
      H.convert w.records (lastWritten p (w.value H p) (before ++ span)) info.type = .ok c →
        x.attributes.lookup p = some c) ∧
    (changes H w.records p (w.value H p) (before ++ span) = false →
      x.attributes.lookup p = w.attributes.lookup p) := by
  rw [List.forall_mem_append, List.forall_mem_append, List.forall_mem_cons] at hsimple
  obtain ⟨⟨hbefore, hspanSimple⟩, -, hafter⟩ := hsimple
  obtain ⟨v, hupto, hrest⟩ := hrun.append_cases
  obtain ⟨u, hfirst, hsecond⟩ := hupto.append_cases
  have hstart : IsUnderway d w.records w := ⟨hidle.target, rfl, by simp [hidle.changed]⟩
  have hnone : p ∉ w.changedNames := by simp [hidle.changed]
  have hu := runs_follow hstart hbefore hfirst p
  have hv := runs_follow hu.underway hspanSimple hsecond p
  have huv := hu.trans hv
  cases hrest with
  | @cons _ _ _ y _ outcome hflush hlast =>
  have hflushed := flush_follows huv.underway hflush p
  have hx := runs_follow hflushed.underway hafter hlast p
  obtain ⟨hshows, -, hwaiting, hvalues⟩ := flush_shows hlimit huv.underway hflush
  have hkept : y.value H p = lastWritten p (w.value H p) (before ++ span) := by
    rw [value_of_keeps hvalues, huv.value]
  -- What the flush showed is what the target has in the end.
  have hend : x.attributes.lookup p = y.attributes.lookup p := by
    refine (hx.quiet ?_ (hkept.symm ▸ hlater)).2
    rw [hwaiting]
    exact List.not_mem_nil
  constructor
  · intro hchanged c hc
    have hnoted : p ∈ v.changedNames := by
      refine hv.noted hspan (.inr ?_)
      rw [hu.value]
      exact hchanged
    rw [hend]
    refine hshows.values p hnoted info c hp ?_
    rw [converted, huv.underway.records, huv.value]
    exact hc
  · intro hsame
    obtain ⟨hidle', hshown⟩ := huv.quiet hnone hsame
    rw [hend, ← hshown]
    exact hshows.others p hidle'

/-! ## A value that equals the one before -/

open Conversion in
/-- A value that is no text is converted to its written form. -/
theorem convert_string {v : Datum} (hnull : v ≠ .null) (htext : ∀ s, v ≠ .text s)
    (hwritable : v.isWritable = true) :
    (v.convert false (.scalar "string")).1 = .ok (.text v.plain) := by
  have hcoerce : coerce dataSurroundings .string v = .ok (.text v.plain) := by
    unfold coerce
    rw [see_bind]
    dsimp only
    split
    · rename_i s
      exact absurd rfl (htext s)
    · simp only [dataSurroundings, hwritable]
      rfl
  have hany : isAny "string" = false := by decide
  have hstring : primitive? "string" = some .string := rfl
  rw [convert_eq_convertAs, convertAs, see_bind]
  split
  · exact absurd rfl hnull
  · rw [convertScalar, hany, hstring]
    simp only [orDegrade, hcoerce]
    rfl

/-- Adapters of a class with one property, which is a text. -/
def noteDefinition : AdapterDefinition (Held Datum) where
  className := "Label"
  metadata := { Metadata.empty with properties := [("note", ⟨"note", .scalar "string", ""⟩)] }
  attributes := ["note"]
  methods := []
  statics := []
  eventPrefix := "on-"
  shadowed := []

/-- A new adapter with a text. -/
def noteWorld : PlainWorld Datum where
  element := { ElementState.empty with values := [("note", .value (.text "draft"))] }
  state := ⟨.constructed, [], some .target⟩
  attributes := [("note", .value (.text "draft"))]
  records := []

/-- The adapter after a number was written and flushed. -/
def oneWorld : PlainWorld Datum :=
  finished (updated ((written (.ofData false) noteWorld "note" (.value (.int 1))).taken.put "note"
    (.value (.text "1"))))

/-- The adapter after a truth value that equals the number was written. -/
def trueWorld : PlainWorld Datum :=
  written (.ofData false) oneWorld "note" (.value (.bool true))

theorem note_isWhole : IsWhole noteDefinition "note" ⟨"note", .scalar "string", ""⟩ where
  known := rfl
  shown := rfl
  stored := rfl
  noRecord := nofun

theorem note_converted {v : Datum} {w : PlainWorld Datum}
    (hvalue : w.value (.ofData false) "note" = .value v) (hnull : v ≠ .null)
    (htext : ∀ s, v ≠ .text s) (hwritable : v.isWritable = true) :
    w.converted (.ofData false) "note" ⟨"note", .scalar "string", ""⟩ = .ok (.value (.text v.plain)) := by
  unfold converted
  rw [hvalue]
  exact congrArg (Held.value <$> ·) (convert_string hnull htext hwritable)

/-- A number is written. -/
def writeOne : Operation Datum :=
  .setProperty "note" (.value (.int 1))

/-- The truth value is written that equals the number. -/
def writeTrue : Operation Datum :=
  .setProperty "note" (.value (.bool true))

theorem writeOne_reaches : writeOne.smoothly (.ofData false) noteDefinition noteWorld
    (.ok (), written (.ofData false) noteWorld "note" (.value (.int 1))) :=
  ⟨(setProperty_ends rfl rfl _ _).2 rfl, nofun⟩

theorem flush_one_reaches : (Operation.flush 16).smoothly (.ofData false) noteDefinition
    (written (.ofData false) noteWorld "note" (.value (.int 1))) (.ok (), oneWorld) := by
  let u := (written (.ofData false) noteWorld "note" (.value (.int 1))).taken
  have hconverted : u.converted (.ofData false) "note" ⟨"note", .scalar "string", ""⟩ =
      .ok (.value (.text "1")) :=
    note_converted (v := .int 1) rfl nofun nofun (by decide +kernel)
  have happly : Ends ((notingAdapter (.ofData false) noteDefinition).applyChange .target "note") u
      none (u.put "note" (.value (.text "1"))) := by
    intro e
    rw [applyChange_whole_iff note_isWhole, hconverted]
  exact ⟨(flush_iff rfl rfl).2 ⟨.ok [], _, .of_ends happly rfl, rfl⟩, nofun⟩

theorem writeTrue_reaches :
    writeTrue.smoothly (.ofData false) noteDefinition oneWorld (.ok (), trueWorld) :=
  ⟨(setProperty_ends rfl rfl _ _).2 rfl, nofun⟩

theorem flush_true_reaches :
    (Operation.flush 16).smoothly (.ofData false) noteDefinition trueWorld (.ok (), trueWorld) :=
  ⟨(run_flush_ends_of_idle (.inr rfl) _).2 rfl, nofun⟩

theorem note_runs : Runs (Operation.smoothly (.ofData false) noteDefinition)
    [writeOne, .flush 16, writeTrue, .flush 16] noteWorld trueWorld :=
  .cons writeOne_reaches (.cons flush_one_reaches
    (.cons writeTrue_reaches (.cons flush_true_reaches (.nil _))))

theorem note_isSimple (op : Operation Datum)
    (hop : op ∈ [writeOne, .flush 16, writeTrue, .flush 16]) : op.IsSimple noteDefinition := by
  simp only [List.mem_cons, List.not_mem_nil, or_false] at hop
  rcases hop with rfl | rfl | rfl | rfl
  · exact ⟨_, note_isWhole⟩
  · trivial
  · exact ⟨_, note_isWhole⟩
  · trivial

theorem one_shown_to_the_end : trueWorld.attributes.lookup "note" = some (.value (.text "1")) := by
  have hconverted : (Handling.ofData false).convert [] (.value (.int 1)) (.scalar "string") =
      .ok (.value (.text "1")) :=
    congrArg (Held.value <$> ·) (convert_string (v := .int 1) nofun nofun (by decide +kernel))
  have hspan : ∀ op ∈ [writeOne], op.isFlush = false := by simp [writeOne, isFlush]
  have hrun : Runs (Operation.smoothly (.ofData false) noteDefinition)
      ([] ++ [writeOne] ++ .flush 16 :: [writeTrue, .flush 16]) noteWorld trueWorld := note_runs
  have hshown := last_change_reaches_target (Nat.succ_ne_zero 15) ⟨rfl, rfl⟩ note_isSimple hspan hrun
    note_isWhole rfl
  exact hshown.1 rfl _ hconverted

/-- The last value that is written is not what the target has in the end, if it equals the one
before. -/
theorem last_write_not_shown :
    noteWorld.IsIdle ∧
      Runs (Operation.smoothly (.ofData false) noteDefinition)
        [writeOne, .flush 16, writeTrue, .flush 16] noteWorld trueWorld ∧
      (Operation.flush 16).run (.ofData false) noteDefinition trueWorld (.ok (), trueWorld) ∧
      lastWritten "note" (noteWorld.value (.ofData false) "note")
        [writeOne, .flush 16, writeTrue, .flush 16] = .value (.bool true) ∧
      (Handling.ofData false).convert trueWorld.records (.value (.bool true)) (.scalar "string") =
        .ok (.value (.text "True")) ∧
      trueWorld.attributes.lookup "note" = some (.value (.text "1")) := by
  have hconverted := convert_string (v := .bool true) nofun nofun rfl
  exact ⟨⟨rfl, rfl⟩, note_runs, flush_true_reaches.1, rfl,
    congrArg (Held.value <$> ·) hconverted, rfl⟩

end SceneBridge.PlainWorld
