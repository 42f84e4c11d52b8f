import Mathlib.Data.List.Basic
import SceneBridge.Convert.Plain
import SceneBridge.Proofs.Rounding

/-!
# How coercing and building fail

Which faults the steps of a conversion of data may end in. Where a value does not fit, the
fault is one that lets it pass; an integer that no double holds is the one exception.
-/

namespace SceneBridge

/-! ## Computations that fail -/

section Failing

variable {α β : Type} {P : Fault → Prop}

/-- If the computation fails, then with such a fault. -/
def FailsOnly (P : Fault → Prop) (x : Except Fault α) : Prop :=
  ∀ f, x = .error f → P f

theorem ok_ne_error (a : α) (f : Fault) : (.ok a : Except Fault α) ≠ .error f := by
  intro h
  cases h

theorem failsOnly_ok (a : α) : FailsOnly P (.ok a : Except Fault α) :=
  nofun

theorem failsOnly_error {f : Fault} (h : P f) : FailsOnly P (.error f : Except Fault α) := by
  intro g hg
  cases hg
  exact h

theorem FailsOnly.mono {Q : Fault → Prop} {x : Except Fault α} (hx : FailsOnly P x)
    (h : ∀ f, P f → Q f) : FailsOnly Q x :=
  fun f hf => h f (hx f hf)

theorem FailsOnly.bind {x : Except Fault α} {f : α → Except Fault β} (hx : FailsOnly P x)
    (hf : ∀ a, FailsOnly P (f a)) : FailsOnly P (x >>= f) := by
  cases x with
  | ok a => exact hf a
  | error g => exact failsOnly_error (hx g rfl)

theorem ok_bind (a : α) (f : α → Except Fault β) : (.ok a : Except Fault α) >>= f = f a :=
  rfl

theorem bind_eq_error_iff {x : Except Fault α} {f : α → Except Fault β} {g : Fault} :
    x >>= f = .error g ↔ x = .error g ∨ ∃ a, x = .ok a ∧ f a = .error g := by
  cases x with
  | ok a =>
    constructor
    · exact fun h => .inr ⟨a, rfl, h⟩
    · rintro (h | ⟨b, hb, h⟩)
      · cases h
      · cases hb
        exact h
  | error e =>
    constructor
    · intro h
      cases h
      exact .inl rfl
    · rintro (h | ⟨a, ha, -⟩)
      · cases h
        rfl
      · cases ha

theorem bind_eq_ok_iff {x : Except Fault α} {f : α → Except Fault β} {b : β} :
    x >>= f = .ok b ↔ ∃ a, x = .ok a ∧ f a = .ok b := by
  cases x with
  | ok a =>
    constructor
    · exact fun h => ⟨a, rfl, h⟩
    · rintro ⟨c, hc, h⟩
      cases hc
      exact h
  | error e =>
    refine iff_of_false nofun ?_
    rintro ⟨a, ha, -⟩
    cases ha

/-- A list of computations fails with the first of them that fails. -/
theorem mapM_eq_error_iff {f : α → Except Fault β} {as : List α} {g : Fault} :
    as.mapM f = .error g ↔
      ∃ before a after, as = before ++ a :: after ∧ (∀ b ∈ before, ∃ r, f b = .ok r) ∧
        f a = .error g := by
  induction as with
  | nil =>
    rw [List.mapM_nil]
    constructor
    · intro h
      cases h
    · rintro ⟨before, a, after, h, -⟩
      simp at h
  | cons a as ih =>
    have htail (b : β) : (do return b :: (← as.mapM f)) = .error g ↔ as.mapM f = .error g := by
      rw [bind_eq_error_iff]
      exact or_iff_left nofun
    -- The first one fails, or the rest do after it returned.
    rw [List.mapM_cons, bind_eq_error_iff]
    constructor
    · rintro (ha | ⟨b, hb, hrest⟩)
      · exact ⟨[], a, as, rfl, by simp, ha⟩
      · obtain ⟨before, c, after, rfl, hbefore, hc⟩ := ih.1 ((htail b).1 hrest)
        refine ⟨a :: before, c, after, rfl, ?_, hc⟩
        exact List.forall_mem_cons.2 ⟨⟨b, hb⟩, hbefore⟩
    · rintro ⟨before, c, after, heq, hbefore, hc⟩
      cases before with
      | nil =>
        obtain ⟨rfl, rfl⟩ := List.cons.inj heq
        exact .inl hc
      | cons b before =>
        obtain ⟨rfl, rfl⟩ := List.cons.inj heq
        obtain ⟨⟨r, hr⟩, hbefore⟩ := List.forall_mem_cons.1 hbefore
        exact .inr ⟨r, hr, (htail r).2 (ih.2 ⟨before, c, after, rfl, hbefore, hc⟩)⟩

theorem FailsOnly.mapM {f : α → Except Fault β} {as : List α} (h : ∀ a ∈ as, FailsOnly P (f a)) :
    FailsOnly P (as.mapM f) := by
  intro g hg
  obtain ⟨before, a, after, rfl, -, ha⟩ := mapM_eq_error_iff.1 hg
  exact h a (by simp) g ha

/-- Where there is one fault that the computations may fail with, the list of them fails if one of
them does. -/
theorem mapM_eq_error_iff_exists {f : α → Except Fault β} {as : List α} {g h : Fault}
    (hf : ∀ a, FailsOnly (· = g) (f a)) :
    as.mapM f = .error h ↔ h = g ∧ ∃ a ∈ as, f a = .error g := by
  constructor
  · intro herror
    obtain ⟨before, a, after, rfl, -, ha⟩ := mapM_eq_error_iff.1 herror
    obtain rfl := hf a h ha
    exact ⟨rfl, a, by simp, ha⟩
  · rintro ⟨rfl, a, hmem, ha⟩
    induction as with
    | nil => cases hmem
    | cons b as ih =>
      rw [List.mapM_cons, bind_eq_error_iff]
      cases hb : f b with
      | error g =>
        rw [hf b g hb]
        exact .inl rfl
      | ok r =>
        obtain rfl | hrest := List.mem_cons.1 hmem
        · cases hb.symm.trans ha
        · exact .inr ⟨r, rfl, bind_eq_error_iff.2 (.inl (ih hrest))⟩

end Failing

/-! ## Faults -/

/-- A fault with which a value passes a constructor, or that of an integer that no double holds. -/
def PassesOrLarge (f : Fault) : Prop :=
  Conversion.isBuildKind f.kind = true ∨ f = .intTooLarge

theorem about_isValue {f : Datum → Fault} {d : Datum} (h : (f d).kind.isValue = true) :
    (Fault.about f d).kind.isValue = true := by
  unfold Fault.about
  split
  · exact h
  · rfl

theorem passesOrLarge_of_isValue {f : Fault} (h : f.kind.isValue = true) : PassesOrLarge f := by
  refine .inl ?_
  rw [Conversion.isBuildKind, h, Bool.true_or]

/-! ## Numbers -/

namespace Number

/-- Neither is the double a number of some size, nor is it not a number. -/
def IsInfinite (x : Float) : Prop :=
  truncate? x = none ∧ x.isNaN = false

theorem Quantity.toFloat_eq_error_iff {q : Quantity} {f : Fault} :
    q.toFloat = .error f ↔ f = .intTooLarge ∧ ∃ n, q = .whole n ∧ tooLarge ≤ n.natAbs := by
  cases q with
  | real x => simp [toFloat]
  | whole n =>
    have hlarge := ofInt?_eq_none_iff n
    cases hn : ofInt? n with
    | some x =>
      have hsmall : ¬ tooLarge ≤ n.natAbs := fun h => nomatch (hlarge.2 h).symm.trans hn
      simp [toFloat, hn, hsmall]
    | none =>
      have hsize := hlarge.1 hn
      simp [toFloat, hn, hsize, eq_comm]

theorem Quantity.toFloat_returns_iff {q : Quantity} :
    (∃ x, q.toFloat = .ok x) ↔ ∀ n, q = .whole n → n.natAbs < tooLarge := by
  cases hfloat : q.toFloat with
  | ok x =>
    refine iff_of_true ⟨x, rfl⟩ fun n hn => Nat.lt_of_not_le fun hlarge => ?_
    cases hfloat.symm.trans (toFloat_eq_error_iff.2 ⟨rfl, n, hn, hlarge⟩)
  | error f =>
    obtain ⟨-, n, hn, hlarge⟩ := toFloat_eq_error_iff.1 hfloat
    exact iff_of_false nofun fun h => Nat.not_lt.2 hlarge (h n hn)

theorem Quantity.toInt_eq_error_iff {q : Quantity} {f : Fault} :
    q.toInt = .error f ∧ f.kind.isValue = false ↔
      f = .infiniteInt ∧ ∃ x, q = .real x ∧ IsInfinite x := by
  cases q with
  | whole n => simp [toInt]
  | real x =>
    cases hx : truncate? x with
    | some n => simp [toInt, IsInfinite, hx]
    | none =>
      cases hnan : x.isNaN with
      | true =>
        have hkind : Fault.nanInt.kind.isValue = true := rfl
        simp only [toInt, hx, hnan, if_true, Except.error.injEq, IsInfinite]
        constructor
        · rintro ⟨rfl, h⟩
          cases hkind.symm.trans h
        · rintro ⟨-, y, hy, -, hnumber⟩
          cases hy
          cases hnan.symm.trans hnumber
      | false =>
        simp only [toInt, hx, hnan, Bool.false_eq_true, if_false, Except.error.injEq, IsInfinite]
        constructor
        · rintro ⟨rfl, -⟩
          exact ⟨rfl, x, rfl, hx, hnan⟩
        · rintro ⟨rfl, -⟩
          exact ⟨rfl, rfl⟩

end Number

namespace Datum

theorem toNumber_failsOnly (d : Datum) : FailsOnly (·.kind.isValue = true) d.toNumber := by
  cases d with
  | bool b => exact failsOnly_ok _
  | flag b => exact failsOnly_ok _
  | int n => exact failsOnly_ok _
  | float x => exact failsOnly_ok _
  | single x => exact failsOnly_ok _
  | text s =>
    rw [toNumber]
    split
    · exact failsOnly_ok _
    · exact failsOnly_error rfl
  | _ => exact failsOnly_error (about_isValue rfl)

theorem toBool_failsOnly (d : Datum) : FailsOnly (·.kind.isValue = true) d.toBool := by
  cases d with
  | bool b => exact failsOnly_ok _
  | flag b => exact failsOnly_ok _
  | int n => exact failsOnly_ok _
  | float x => exact failsOnly_ok _
  | single x => exact failsOnly_ok _
  | text s =>
    rw [toBool]
    split
    · exact failsOnly_ok _
    · exact failsOnly_error rfl
  | _ => exact failsOnly_error (about_isValue rfl)

theorem components_failsOnly (d : Datum) : FailsOnly (·.kind.isValue = true) d.components := by
  cases d with
  | text s => exact .mapM fun p _ => toNumber_failsOnly _
  | array a => exact failsOnly_ok _
  | list ds => exact .mapM fun d _ => d.toNumber_failsOnly
  | tuple ds => exact .mapM fun d _ => d.toNumber_failsOnly
  | _ => exact failsOnly_error (about_isValue rfl)

theorem toFloat_failsOnly (d : Datum) : FailsOnly PassesOrLarge d.toFloat := by
  cases d with
  | bool b => exact failsOnly_ok _
  | flag b => exact failsOnly_ok _
  | float x => exact failsOnly_ok _
  | single x => exact failsOnly_ok _
  | int n =>
    intro f hf
    rw [toFloat] at hf
    exact .inr (Number.Quantity.toFloat_eq_error_iff.1 hf).1
  | text s =>
    rw [toFloat]
    split
    · exact failsOnly_ok _
    · exact failsOnly_error (.inl rfl)
  | array a =>
    rw [toFloat]
    split
    · exact failsOnly_ok _
    · exact failsOnly_error (.inl rfl)
  | _ => exact failsOnly_error (.inl rfl)

end Datum

/-! ## Arrays -/

theorem stackShapes_failsOnly (shapes : List (List Nat)) :
    FailsOnly PassesOrLarge (stackShapes shapes) := by
  cases shapes with
  | nil => exact failsOnly_ok _
  | cons shape shapes =>
    rw [stackShapes]
    split
    · exact failsOnly_ok _
    · exact failsOnly_error (.inl rfl)

mutual

theorem Datum.arrayShape_failsOnly (d : Datum) : FailsOnly PassesOrLarge d.arrayShape := by
  cases d with
  | list ds =>
    rw [Datum.arrayShape]
    exact (Datum.arrayShapes_failsOnly ds).bind stackShapes_failsOnly
  | tuple ds =>
    rw [Datum.arrayShape]
    exact (Datum.arrayShapes_failsOnly ds).bind stackShapes_failsOnly
  | _ => exact failsOnly_ok _

theorem Datum.arrayShapes_failsOnly (ds : List Datum) :
    FailsOnly PassesOrLarge (Datum.arrayShapes ds) := by
  cases ds with
  | nil => exact failsOnly_ok _
  | cons d ds =>
    rw [Datum.arrayShapes]
    refine (Datum.arrayShape_failsOnly d).bind fun shape => ?_
    exact (Datum.arrayShapes_failsOnly ds).bind fun shapes => failsOnly_ok _

end

mutual

theorem Datum.arrayCells_failsOnly (d : Datum) : FailsOnly PassesOrLarge d.arrayCells := by
  have hnumber (d : Datum) : FailsOnly PassesOrLarge (do return [← d.toFloat]) :=
    d.toFloat_failsOnly.bind fun x => failsOnly_ok _
  cases d with
  | array a => exact failsOnly_ok _
  | null => exact failsOnly_ok _
  | list ds =>
    rw [Datum.arrayCells]
    exact Datum.arraysCells_failsOnly ds
  | tuple ds =>
    rw [Datum.arrayCells]
    exact Datum.arraysCells_failsOnly ds
  | value who kind parts =>
    rw [Datum.arrayCells]
    split
    · exact failsOnly_error (.inl rfl)
    · exact failsOnly_ok _
  | _ => exact hnumber _

theorem Datum.arraysCells_failsOnly (ds : List Datum) :
    FailsOnly PassesOrLarge (Datum.arraysCells ds) := by
  cases ds with
  | nil => exact failsOnly_ok _
  | cons d ds =>
    rw [Datum.arraysCells]
    refine (Datum.arrayCells_failsOnly d).bind fun cells => ?_
    exact (Datum.arraysCells_failsOnly ds).bind fun more => failsOnly_ok _

end

theorem Datum.toArray_failsOnly (d : Datum) : FailsOnly PassesOrLarge d.toArray :=
  d.arrayShape_failsOnly.bind fun _ => d.arrayCells_failsOnly.bind fun _ => failsOnly_ok _

/-! ## Constructors -/

theorem Colour.ofHex_failsOnly (text : List Char) :
    FailsOnly (·.kind.isValue = true) (Colour.ofHex text) := by
  unfold Colour.ofHex
  extract_lets bare digits
  split
  · exact failsOnly_error rfl
  · split
    · exact failsOnly_ok _
    · exact failsOnly_error rfl

theorem Colour.ofText_failsOnly (text : String) :
    FailsOnly (·.kind.isValue = true) (Colour.ofText text) := by
  unfold Colour.ofText
  split
  · exact failsOnly_ok _
  · exact Colour.ofHex_failsOnly _

theorem Colour.make_text (text : String) : Colour.make [.text text] = Colour.ofText text := by
  rw [Colour.make]
  simp only [List.isEmpty_cons, Bool.false_eq_true, if_false, Colour.ofData]

theorem Colour.make_failsOnly (args : List Datum) : FailsOnly PassesOrLarge (Colour.make args) := by
  unfold Colour.make
  split
  · exact failsOnly_ok _
  · unfold Colour.ofData
    split
    · split
      · exact failsOnly_ok _
      · exact (Colour.ofText_failsOnly _).mono fun _ => passesOrLarge_of_isValue
      · exact failsOnly_ok _
      · exact failsOnly_error (passesOrLarge_of_isValue (about_isValue rfl))
    · rename_i r g b _
      refine r.toFloat_failsOnly.bind fun _ => g.toFloat_failsOnly.bind fun _ => ?_
      exact b.toFloat_failsOnly.bind fun _ => failsOnly_ok _
    · exact failsOnly_error (.inl rfl)

namespace ValueKind

theorem ofComponents_failsOnly (kind : ValueKind) (className : String) (args : List Datum) :
    FailsOnly PassesOrLarge (kind.ofComponents className args) := by
  unfold ofComponents
  split
  · split
    · exact failsOnly_error (.inl rfl)
    · exact failsOnly_error (.inl rfl)
  · exact (FailsOnly.mapM fun d _ => d.toFloat_failsOnly).bind fun _ => failsOnly_ok _

theorem ofElements_failsOnly (kind : ValueKind) (className : String) (elements : Datum) :
    FailsOnly PassesOrLarge (kind.ofElements className elements) := by
  refine elements.toArray_failsOnly.bind fun a => ?_
  split
  · exact failsOnly_error (.inl rfl)
  · exact failsOnly_ok _

/-- A constructor that fails lets the value pass, unless an integer is too large. -/
theorem construct_failsOnly (kind : ValueKind) (args : List Datum) :
    FailsOnly PassesOrLarge (kind.construct args) := by
  have hmatrix (kind : ValueKind) (h : kind = .matrix3 ∨ kind = .matrix4) :
      FailsOnly PassesOrLarge (kind.construct args) := by
    cases args with
    | nil => rcases h with rfl | rfl <;> exact failsOnly_error (.inl rfl)
    | cons d ds =>
      cases ds with
      | nil => rcases h with rfl | rfl <;> exact ofElements_failsOnly _ _ d
      | cons e ds => rcases h with rfl | rfl <;> exact failsOnly_error (.inl rfl)
  cases kind with
  | color => exact Colour.make_failsOnly args
  | matrix3 => exact hmatrix _ (.inl rfl)
  | matrix4 => exact hmatrix _ (.inr rfl)
  | _ => exact ofComponents_failsOnly _ _ args

end ValueKind

end SceneBridge
