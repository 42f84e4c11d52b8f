import Mathlib.Data.List.Basic
import Mathlib.Logic.Relation
import SceneBridge.Cell
import SceneBridge.Event.Listeners

/-!
# Computations with several possible ends

Code that is not known may do anything within its reach. A computation that depends on
such code is described by the ends that it may come to: what holds of all of them holds
whatever the unknown code does.
-/

namespace SceneBridge

/-- A computation over states `σ`, as the relation between a state and the ends, with the
states then, that it may come to. -/
def Possibly (σ α : Type) : Type :=
  σ → Except Fault α × σ → Prop

namespace Possibly

variable {σ α β : Type}

/-! ## Computations -/

instance : Monad (Possibly σ) where
  pure a s e := e = (.ok a, s)
  bind x f s e := ∃ outcome t, x s (outcome, t) ∧
    match outcome with
    | .ok a => f a t e
    | .error fault => e = (.error fault, t)

instance : MonadExceptOf Fault (Possibly σ) where
  throw fault s e := e = (.error fault, s)
  tryCatch x handle s e := ∃ outcome t, x s (outcome, t) ∧
    match outcome with
    | .ok a => e = (.ok a, t)
    | .error fault => handle fault t e

/-- Reads something off the state. -/
def read (f : σ → α) : Possibly σ α :=
  fun s e => e = (.ok (f s), s)

/-- Reads something off the state that may be a fault. -/
def result (f : σ → Except Fault α) : Possibly σ α :=
  fun s e => e = (f s, s)

/-- Changes the state. -/
def change (f : σ → σ) : Possibly σ Unit :=
  fun s e => e = (.ok (), f s)

/-- A part of the state as a cell. -/
def cell {τ : Type} (get : σ → τ) (set : τ → σ → σ) : Cell (Possibly σ) τ where
  get := read get
  set v := change (set v)

/-- Any of some computations. -/
def choose {ι : Type} (x : ι → Possibly σ α) : Possibly σ α :=
  fun s e => ∃ i, x i s e

/-- The computation any number of times, until it fails. -/
def often (x : Possibly σ Unit) : Possibly σ Unit :=
  choose fun n => times n
where
  /-- The computation `n` times. -/
  times : Nat → Possibly σ Unit
    | 0 => pure ()
    | n + 1 => do
      x
      times n

/-- Whatever code may come to that changes the state as `x` does: it returns anything, or
fails. -/
def anything (x : Possibly σ Unit) : Possibly σ α :=
  fun s e => ∃ outcome, x s (outcome, e.2)

theorem bind_ok {x : Possibly σ α} {f : α → Possibly σ β} {s u : σ} {b : β}
    (h : (x >>= f) s (.ok b, u)) : ∃ a t, x s (.ok a, t) ∧ f a t (.ok b, u) := by
  obtain ⟨outcome, t, hx, hrest⟩ := h
  cases outcome with
  | ok a => exact ⟨a, t, hx, hrest⟩
  | error fault => cases hrest

/-- One computation after another fails with the first one, or goes on after it. -/
theorem bind_cases {x : Possibly σ α} {f : α → Possibly σ β} {s u : σ} {outcome : Except Fault β}
    (h : (x >>= f) s (outcome, u)) :
    (∃ fault, outcome = .error fault ∧ x s (.error fault, u)) ∨
      ∃ a t, x s (.ok a, t) ∧ f a t (outcome, u) := by
  obtain ⟨inner, t, hx, hrest⟩ := h
  cases inner with
  | ok a => exact .inr ⟨a, t, hx, hrest⟩
  | error fault =>
    obtain ⟨rfl, rfl⟩ := Prod.mk.inj hrest
    exact .inl ⟨fault, rfl, hx⟩

theorem read_bind {f : σ → α} {g : α → Possibly σ β} {s : σ} {e : Except Fault β × σ} :
    (read f >>= g) s e ↔ g (f s) s e := by
  refine ⟨?_, fun h => ⟨.ok (f s), s, rfl, h⟩⟩
  rintro ⟨outcome, t, hread, hrest⟩
  obtain ⟨rfl, rfl⟩ := Prod.mk.inj hread
  exact hrest

theorem change_bind {f : σ → σ} {g : Unit → Possibly σ β} {s : σ} {e : Except Fault β × σ} :
    (change f >>= g) s e ↔ g () (f s) e := by
  refine ⟨?_, fun h => ⟨.ok (), f s, rfl, h⟩⟩
  rintro ⟨outcome, t, hchange, hrest⟩
  obtain ⟨rfl, rfl⟩ := Prod.mk.inj hchange
  exact hrest

/-- A listener is called and comes to some end, and the rest are called then. -/
theorem deliver_cons {call : β → Possibly σ Unit} {listener : β} {listeners : List β} {s u : σ}
    {outcome : Except Fault Unit} (h : deliver call (listener :: listeners) s (outcome, u)) :
    ∃ inner t, call listener s (inner, t) ∧ deliver call listeners t (outcome, u) := by
  obtain ⟨caught, t, ⟨inner, v, hcall, hcaught⟩, hrest⟩ := h
  refine ⟨inner, v, hcall, ?_⟩
  cases inner with
  | ok _ =>
    obtain ⟨rfl, rfl⟩ := Prod.mk.inj hcaught
    exact hrest
  | error fault =>
    obtain ⟨rfl, rfl⟩ := Prod.mk.inj hcaught
    exact hrest

instance : LawfulMonad (Possibly σ) := by
  refine .mk' _ (fun x => ?_) (fun a f => ?_) fun x f g => ?_
  · funext s e
    refine propext ⟨?_, fun h => ⟨e.1, e.2, h, ?_⟩⟩
    · rintro ⟨outcome, t, hx, hrest⟩
      cases outcome with
      | ok a => exact hrest ▸ hx
      | error fault => exact hrest ▸ hx
    · obtain ⟨outcome, t⟩ := e
      cases outcome <;> rfl
  · funext s e
    exact propext (read_bind (f := fun _ => a))
  · funext s e
    refine propext ⟨?_, ?_⟩
    · rintro ⟨outcome, t, ⟨inner, u, hx, hf⟩, hrest⟩
      refine ⟨inner, u, hx, ?_⟩
      cases inner with
      | ok a => exact ⟨outcome, t, hf, hrest⟩
      | error fault =>
        obtain ⟨rfl, rfl⟩ := Prod.mk.inj hf
        exact hrest
    · rintro ⟨inner, u, hx, hrest⟩
      cases inner with
      | ok a =>
        obtain ⟨outcome, t, hf, hg⟩ := hrest
        exact ⟨outcome, t, ⟨.ok a, u, hx, hf⟩, hg⟩
      | error fault => exact ⟨.error fault, u, ⟨.error fault, u, hx, rfl⟩, hrest⟩

/-! ## Steps -/

/-- A relation between states that holds over nothing and over one thing after another. -/
structure IsStep (R : σ → σ → Prop) : Prop where
  refl : ∀ s, R s s
  trans : ∀ {s t u}, R s t → R t u → R s u

/-- What holds of a state still holds then. -/
theorem IsStep.of_invariant (P : σ → Prop) : IsStep fun s t => P s → P t where
  refl _ := id
  trans h₁ h₂ := h₂ ∘ h₁

/-- However the computation ends, the state then is a step from the state before. -/
def Advances (R : σ → σ → Prop) (x : Possibly σ α) : Prop :=
  ∀ s outcome t, x s (outcome, t) → R s t

namespace Advances

variable {R : σ → σ → Prop} {x : Possibly σ α}

theorem mono {S : σ → σ → Prop} (h : ∀ s t, R s t → S s t) (hx : Advances R x) : Advances S x :=
  fun s outcome t hrun => h s t (hx s outcome t hrun)

theorem change {f : σ → σ} (h : ∀ s, R s (f s)) : Advances R (Possibly.change f) := by
  rintro s outcome t hrun
  obtain ⟨rfl, rfl⟩ := Prod.mk.inj hrun
  exact h s

theorem choose {ι : Type} {x : ι → Possibly σ α} (h : ∀ i, Advances R (x i)) :
    Advances R (Possibly.choose x) := by
  rintro s outcome t ⟨i, hrun⟩
  exact h i s outcome t hrun

theorem anything {x : Possibly σ Unit} (hx : Advances R x) :
    Advances R (Possibly.anything x : Possibly σ α) := by
  rintro s outcome t ⟨inner, hrun⟩
  exact hx s inner t hrun

theorem ite {p : Prop} [Decidable p] {y : Possibly σ α} (hx : p → Advances R x)
    (hy : ¬ p → Advances R y) : Advances R (if p then x else y) := by
  split
  · exact hx ‹_›
  · exact hy ‹_›

variable (hR : IsStep R)

include hR

theorem read (f : σ → α) : Advances R (Possibly.read f) := by
  rintro s outcome t hrun
  obtain ⟨rfl, rfl⟩ := Prod.mk.inj hrun
  exact hR.refl _

theorem pure (a : α) : Advances R (Pure.pure a : Possibly σ α) :=
  read hR fun _ => a

theorem throw (fault : Fault) : Advances R (throwThe Fault fault : Possibly σ α) := by
  rintro s outcome t hrun
  obtain ⟨rfl, rfl⟩ := Prod.mk.inj hrun
  exact hR.refl _

theorem bind {f : α → Possibly σ β} (hx : Advances R x) (hf : ∀ a, Advances R (f a)) :
    Advances R (x >>= f) := by
  rintro s outcome u ⟨inner, t, hrun, hrest⟩
  cases inner with
  | ok a => exact hR.trans (hx s _ t hrun) (hf a t outcome u hrest)
  | error fault =>
    obtain ⟨rfl, rfl⟩ := Prod.mk.inj hrest
    exact hx _ _ _ hrun

theorem map (f : α → β) (hx : Advances R x) : Advances R (f <$> x) :=
  bind hR hx fun a => pure hR (f a)

theorem tryCatch {handle : Fault → Possibly σ α} (hx : Advances R x)
    (hhandle : ∀ fault, Advances R (handle fault)) :
    Advances R (tryCatchThe Fault x handle) := by
  rintro s outcome u ⟨inner, t, hrun, hrest⟩
  cases inner with
  | ok a =>
    obtain ⟨rfl, rfl⟩ := Prod.mk.inj hrest
    exact hx _ _ _ hrun
  | error fault => exact hR.trans (hx s _ t hrun) (hhandle fault t outcome u hrest)

theorem forM {as : List β} {f : β → Possibly σ PUnit} (hf : ∀ a ∈ as, Advances R (f a)) :
    Advances R (as.forM f) := by
  induction as with
  | nil => exact pure hR _
  | cons a as ih =>
    refine bind hR (hf a List.mem_cons_self) fun _ => ?_
    exact ih fun b hb => hf b (List.mem_cons_of_mem _ hb)

theorem walk {γ : Type} {c : Cell (Possibly σ) β} (hget : Advances R c.get) {items : β → List γ}
    {visit : γ → Possibly σ Unit} (hvisit : ∀ x, Advances R (visit x)) (place limit : Nat) :
    Advances R (c.walk items visit place limit) := by
  induction limit generalizing place with
  | zero => exact pure hR ()
  | succ n ih =>
    refine bind hR hget fun b => ?_
    cases (items b)[place]? with
    | none => exact pure hR ()
    | some x => exact bind hR (hvisit x) fun _ => ih (place + 1)

theorem filterMapM {γ : Type} {as : List β} {f : β → Possibly σ (Option γ)}
    (hf : ∀ a ∈ as, Advances R (f a)) : Advances R (as.filterMapM f) := by
  -- The loop keeps what it found so far, about which nothing is known.
  have hloop (bs : List γ) : Advances R (List.filterMapM.loop f as bs) := by
    induction as generalizing bs with
    | nil => exact pure hR _
    | cons a as ih =>
      have hrest := ih fun b hb => hf b (List.mem_cons_of_mem _ hb)
      refine bind hR (hf a List.mem_cons_self) fun found => ?_
      cases found with
      | none => exact hrest bs
      | some b => exact hrest (b :: bs)
  exact hloop []

theorem findSomeM {γ : Type} {f : β → Possibly σ (Option γ)} (hf : ∀ a, Advances R (f a))
    (as : List β) : Advances R (as.findSomeM? f) := by
  induction as with
  | nil => exact pure hR none
  | cons a as ih =>
    refine bind hR (hf a) fun found => ?_
    cases found with
    | none => exact ih
    | some b => exact pure hR (some b)

theorem deliver {call : β → Possibly σ Unit} {listeners : List β}
    (hcall : ∀ l ∈ listeners, Advances R (call l)) :
    Advances R (SceneBridge.deliver call listeners) :=
  forM hR fun l hl => tryCatch hR (hcall l hl) fun _ => pure hR ()

theorem often {x : Possibly σ Unit} (hx : Advances R x) : Advances R (Possibly.often x) := by
  refine choose fun n => ?_
  induction n with
  | zero => exact pure hR ()
  | succ n ih => exact bind hR hx fun _ => ih

end Advances

/-- What follows a computation matters only in the states that it may leave. -/
theorem Advances.bind_congr {R : σ → σ → Prop} {x y : Possibly σ α} {f g : α → Possibly σ β} {s : σ}
    (hy : Advances R y) (hxy : x s = y s) (h : ∀ a t, R s t → f a t = g a t) :
    (x >>= f) s = (y >>= g) s := by
  funext e
  refine propext (exists_congr fun outcome => exists_congr fun t => ?_)
  rw [hxy]
  refine and_congr_right fun hrun => ?_
  cases outcome with
  | ok a => exact iff_of_eq (congrFun (h a t (hy s _ t hrun)) e)
  | error fault => exact .rfl

theorem cell_modify {τ : Type} (get : σ → τ) (set : τ → σ → σ) (f : τ → τ) :
    (cell get set).modify f = change fun s => set (f (get s)) s := by
  funext s e
  exact propext read_bind

/-! ## Failures -/

/-- Where the computation fails, the state then is a step from the state before. -/
def FailsWithin (R : σ → σ → Prop) (x : Possibly σ α) : Prop :=
  ∀ s fault t, x s (.error fault, t) → R s t

/-- The computation always returns. -/
def NeverFails (x : Possibly σ α) : Prop :=
  FailsWithin (fun _ _ => False) x

theorem NeverFails.failsWithin {R : σ → σ → Prop} {x : Possibly σ α} (hx : NeverFails x) :
    FailsWithin R x :=
  fun s fault t hrun => (hx s fault t hrun).elim

theorem FailsWithin.bind {R : σ → σ → Prop} (hR : IsStep R) {x : Possibly σ α}
    {f : α → Possibly σ β} (hx : Advances R x) (hf : ∀ a, FailsWithin R (f a)) :
    FailsWithin R (x >>= f) := by
  rintro s fault u ⟨inner, t, hrun, hrest⟩
  cases inner with
  | ok a => exact hR.trans (hx s _ t hrun) (hf a t fault u hrest)
  | error other =>
    obtain ⟨-, rfl⟩ := Prod.mk.inj hrest
    exact hx s _ u hrun

theorem NeverFails.bind {x : Possibly σ α} {f : α → Possibly σ β} (hx : NeverFails x)
    (hf : ∀ a, NeverFails (f a)) : NeverFails (x >>= f) := by
  rintro s fault u ⟨inner, t, hrun, hrest⟩
  cases inner with
  | ok a => exact hf a t fault u hrest
  | error other => exact hx s other t hrun

theorem NeverFails.read (f : σ → α) : NeverFails (Possibly.read f) := by
  intro s fault t hrun
  cases (Prod.mk.inj hrun).1

theorem NeverFails.pure (a : α) : NeverFails (Pure.pure a : Possibly σ α) :=
  .read fun _ => a

theorem NeverFails.change (f : σ → σ) : NeverFails (Possibly.change f) := by
  intro s fault t hrun
  cases (Prod.mk.inj hrun).1

theorem NeverFails.modify {τ : Type} (get : σ → τ) (set : τ → σ → σ) (f : τ → τ) :
    NeverFails ((cell get set).modify f) := by
  rw [cell_modify]
  exact .change _

theorem NeverFails.choose {ι : Type} {x : ι → Possibly σ α} (hx : ∀ i, NeverFails (x i)) :
    NeverFails (Possibly.choose x) := by
  rintro s fault t ⟨i, hrun⟩
  exact hx i s fault t hrun

theorem NeverFails.tryCatch {x : Possibly σ α} {handle : Fault → Possibly σ α}
    (hhandle : ∀ fault, NeverFails (handle fault)) : NeverFails (tryCatchThe Fault x handle) := by
  rintro s fault u ⟨inner, t, -, hrest⟩
  cases inner with
  | ok a => cases (Prod.mk.inj hrest).1
  | error other => exact hhandle other t fault u hrest

/-- The second state is reached from the first one by runs of the computation alone. -/
def Passes (code : Possibly σ Unit) : σ → σ → Prop :=
  Relation.ReflTransGen fun s t => ∃ outcome, code s (outcome, t)

theorem passes_isStep (code : Possibly σ Unit) : IsStep (Passes code) where
  refl _ := .refl
  trans := .trans

theorem passes_advances (code : Possibly σ Unit) : Advances (Passes code) code :=
  fun _ outcome _ hrun => .single ⟨outcome, hrun⟩

theorem Passes.of_advances {R : σ → σ → Prop} (hR : IsStep R) {code : Possibly σ Unit}
    (hcode : Advances R code) {s t : σ} (h : Passes code s t) : R s t := by
  induction h with
  | refl => exact hR.refl s
  | tail _ hlast ih =>
    obtain ⟨outcome, hrun⟩ := hlast
    exact hR.trans ih (hcode _ outcome _ hrun)

/-! ## The only end -/

/-- From `s`, the computation returns `a` in `t`, and comes to no other end. -/
def Ends (x : Possibly σ α) (s : σ) (a : α) (t : σ) : Prop :=
  ∀ e, x s e ↔ e = (.ok a, t)

namespace Ends

variable {x : Possibly σ α} {s t u : σ} {a : α} {b : β}

theorem pure (a : α) (s : σ) : Ends (Pure.pure a : Possibly σ α) s a s := fun _ => .rfl

theorem read (f : σ → α) (s : σ) : Ends (Possibly.read f) s (f s) s := fun _ => .rfl

theorem change (f : σ → σ) (s : σ) : Ends (Possibly.change f) s () (f s) := fun _ => .rfl

theorem modify {τ : Type} (get : σ → τ) (set : τ → σ → σ) (f : τ → τ) (s : σ) :
    Ends ((cell get set).modify f) s () (set (f (get s)) s) := by
  rw [cell_modify]
  exact change _ s

theorem bind {f : α → Possibly σ β} (hx : Ends x s a t) (hf : Ends (f a) t b u) :
    Ends (x >>= f) s b u := by
  intro e
  constructor
  -- The first computation comes to one end only, from which the second one goes on.
  · rintro ⟨outcome, v, hrun, hrest⟩
    obtain ⟨rfl, rfl⟩ := Prod.mk.inj ((hx _).1 hrun)
    exact (hf e).1 hrest
  · intro he
    exact ⟨.ok a, t, (hx _).2 rfl, (hf e).2 he⟩

/-- What follows a computation that comes to one end only goes on from there. -/
theorem bind_iff {f : α → Possibly σ β} {e : Except Fault β × σ} (hx : Ends x s a t) :
    (x >>= f) s e ↔ f a t e := by
  refine ⟨?_, fun h => ⟨.ok a, t, (hx _).2 rfl, h⟩⟩
  rintro ⟨outcome, v, hrun, hrest⟩
  obtain ⟨rfl, rfl⟩ := Prod.mk.inj ((hx _).1 hrun)
  exact hrest

theorem tryCatch {handle : Fault → Possibly σ α} (hx : Ends x s a t) :
    Ends (tryCatchThe Fault x handle) s a t := by
  intro e
  constructor
  · rintro ⟨outcome, v, hrun, hrest⟩
    obtain ⟨rfl, rfl⟩ := Prod.mk.inj ((hx _).1 hrun)
    exact hrest
  · intro he
    exact ⟨.ok a, t, (hx _).2 rfl, he⟩

theorem ite_of_pos {p : Prop} [Decidable p] {y : Possibly σ α} (h : p) (hx : Ends x s a t) :
    Ends (if p then x else y) s a t := by
  rw [if_pos h]
  exact hx

theorem ite_of_neg {p : Prop} [Decidable p] {y : Possibly σ α} (h : ¬ p) (hy : Ends y s a t) :
    Ends (if p then x else y) s a t := by
  rw [if_neg h]
  exact hy

theorem forM {f : β → Possibly σ PUnit} {step : σ → β → σ}
    (hf : ∀ s b, Ends (f b) s ⟨⟩ (step s b)) (bs : List β) (s : σ) :
    Ends (bs.forM f) s ⟨⟩ (bs.foldl step s) := by
  induction bs generalizing s with
  | nil => exact pure _ s
  | cons b bs ih => exact bind (hf s b) (ih (step s b))

/-- What is done with the items of a list that stays as it is meanwhile is done with all of them. -/
theorem walk {γ : Type} {c : Cell (Possibly σ) γ} {content : σ → γ} (items : γ → List β)
    {visit : β → Possibly σ Unit} {step : σ → β → σ}
    (hget : ∀ s, Ends c.get s (content s) s) (hvisit : ∀ s b, Ends (visit b) s () (step s b))
    (hkeeps : ∀ s b, content (step s b) = content s) (place limit : Nat) (s : σ)
    (hlimit : (items (content s)).length ≤ place + limit) :
    Ends (c.walk items visit place limit) s () (((items (content s)).drop place).foldl step s) := by
  induction limit generalizing place s with
  | zero =>
    have hnone : (items (content s)).drop place = [] := List.drop_eq_nil_of_le hlimit
    rw [hnone]
    exact pure () s
  | succ n ih =>
    refine bind (hget s) ?_
    cases hfound : (items (content s))[place]? with
    | none =>
      rw [List.drop_eq_nil_of_le (List.getElem?_eq_none_iff.1 hfound)]
      exact pure () s
    | some b =>
      obtain ⟨hplace, hb⟩ := List.getElem?_eq_some_iff.1 hfound
      have hrest := ih (place + 1) (step s b) (by rw [hkeeps]; omega)
      rw [hkeeps] at hrest
      rw [List.drop_eq_getElem_cons hplace, hb, List.foldl_cons]
      exact bind (hvisit s b) hrest

/-- Listeners that do nothing are told to no effect. -/
theorem deliver {call : β → Possibly σ Unit} (hcall : ∀ b, Ends (call b) s () s) (bs : List β) :
    Ends (SceneBridge.deliver call bs) s ⟨⟩ s := by
  induction bs with
  | nil => exact pure _ s
  | cons b bs ih => exact bind (hcall b).tryCatch ih

end Ends

/-- From `s`, the computation fails with `fault` in `t`, and comes to no other end. -/
def Breaks (x : Possibly σ α) (s : σ) (fault : Fault) (t : σ) : Prop :=
  ∀ e, x s e ↔ e = (.error fault, t)

namespace Breaks

theorem throw (fault : Fault) (s : σ) :
    Breaks (throwThe Fault fault : Possibly σ α) s fault s :=
  fun _ => .rfl

/-- What follows a computation that fails is not run. -/
theorem bind {x : Possibly σ α} {f : α → Possibly σ β} {s t : σ} {fault : Fault}
    (hx : Breaks x s fault t) : Breaks (x >>= f) s fault t := by
  intro e
  constructor
  · rintro ⟨outcome, u, hrun, hrest⟩
    obtain ⟨rfl, rfl⟩ := Prod.mk.inj ((hx _).1 hrun)
    exact hrest
  · intro he
    exact ⟨.error fault, t, (hx _).2 rfl, he⟩

end Breaks

theorem Ends.bind_breaks {x : Possibly σ α} {f : α → Possibly σ β} {s t u : σ} {a : α}
    {fault : Fault} (hx : Ends x s a t) (hf : Breaks (f a) t fault u) :
    Breaks (x >>= f) s fault u :=
  fun e => hx.bind_iff.trans (hf e)

/-- A computation whose fault is caught as a value returns what it comes to. -/
theorem Ends.attempt {x : Possibly σ α} {s t : σ} {outcome : Except Fault α}
    (hx : ∀ e, x s e ↔ e = (outcome, t)) :
    Ends (tryCatchThe Fault (Except.ok <$> x) fun fault => Pure.pure (.error fault)) s outcome
      t := by
  intro e
  constructor
  · rintro ⟨caught, u, ⟨inner, v, hrun, hmap⟩, hrest⟩
    obtain ⟨rfl, rfl⟩ := Prod.mk.inj ((hx _).1 hrun)
    cases inner with
    | ok a =>
      obtain ⟨rfl, rfl⟩ := Prod.mk.inj hmap
      exact hrest
    | error fault =>
      obtain ⟨rfl, rfl⟩ := Prod.mk.inj hmap
      exact hrest
  · intro he
    cases outcome with
    | ok a => exact ⟨.ok (.ok a), t, ⟨.ok a, t, (hx _).2 rfl, rfl⟩, he⟩
    | error fault => exact ⟨.error fault, t, ⟨.error fault, t, (hx _).2 rfl, rfl⟩, he⟩

/-! ## What is ensured -/

/-- From `s`, the computation comes to an end, and `Q` holds of every end. -/
def Ensures (x : Possibly σ α) (s : σ) (Q : Except Fault α × σ → Prop) : Prop :=
  (∃ e, x s e) ∧ ∀ e, x s e → Q e

namespace Ensures

variable {x : Possibly σ α} {s : σ} {P Q : Except Fault α × σ → Prop}

theorem mono (hx : Ensures x s P) (h : ∀ e, P e → Q e) : Ensures x s Q :=
  ⟨hx.1, fun e hrun => h e (hx.2 e hrun)⟩

theorem read {f : σ → α} (h : Q (.ok (f s), s)) : Ensures (Possibly.read f) s Q :=
  ⟨⟨_, rfl⟩, fun _ hrun => hrun ▸ h⟩

theorem pure {a : α} (h : Q (.ok a, s)) : Ensures (Pure.pure a : Possibly σ α) s Q :=
  read (f := fun _ => a) h

theorem throw {fault : Fault} (h : Q (.error fault, s)) :
    Ensures (throwThe Fault fault : Possibly σ α) s Q :=
  ⟨⟨_, rfl⟩, fun _ hrun => hrun ▸ h⟩

theorem change {f : σ → σ} {Q : Except Fault Unit × σ → Prop} (h : Q (.ok (), f s)) :
    Ensures (Possibly.change f) s Q :=
  ⟨⟨_, rfl⟩, fun _ hrun => hrun ▸ h⟩

theorem anything {R : σ → Prop} {x : Possibly σ Unit} (hx : Ensures x s fun e => R e.2) :
    Ensures (Possibly.anything x : Possibly σ Unit) s fun e => R e.2 := by
  obtain ⟨⟨⟨outcome, t⟩, hrun⟩, hall⟩ := hx
  exact ⟨⟨(.ok (), t), outcome, hrun⟩, fun e ⟨inner, hinner⟩ => hall (inner, e.2) hinner⟩

/-- The second computation is ensured from wherever the first one returns. -/
theorem bind {f : α → Possibly σ β} {Q : Except Fault β × σ → Prop} (hx : Ensures x s P)
    (hf : ∀ a t, P (.ok a, t) → Ensures (f a) t Q)
    (hfault : ∀ fault t, P (.error fault, t) → Q (.error fault, t)) : Ensures (x >>= f) s Q := by
  obtain ⟨⟨⟨outcome, t⟩, hrun⟩, hall⟩ := hx
  constructor
  · cases outcome with
    | ok a =>
      obtain ⟨e, hrest⟩ := (hf a t (hall _ hrun)).1
      exact ⟨e, .ok a, t, hrun, hrest⟩
    | error fault => exact ⟨_, .error fault, t, hrun, rfl⟩
  · rintro e ⟨outcome, t, hrun, hrest⟩
    cases outcome with
    | ok a => exact (hf a t (hall _ hrun)).2 e hrest
    | error fault =>
      obtain rfl := hrest
      exact hfault fault t (hall _ hrun)

/-- What follows a computation that comes to one end only is ensured from there. -/
theorem of_ends {f : α → Possibly σ β} {Q : Except Fault β × σ → Prop} {t : σ} {a : α}
    (hx : Ends x s a t) (hf : Ensures (f a) t Q) : Ensures (x >>= f) s Q := by
  obtain ⟨⟨e, hrun⟩, hall⟩ := hf
  exact ⟨⟨e, hx.bind_iff.2 hrun⟩, fun e h => hall e (hx.bind_iff.1 h)⟩

/-- A computation whose fault is dealt with returns, and leaves what it leaves. -/
theorem caught {R : σ → Prop} {x : Possibly σ Unit} (hx : Ensures x s fun e => R e.2) :
    Ensures (tryCatchThe Fault x fun _ => Pure.pure ()) s fun e => e.1 = .ok () ∧ R e.2 := by
  obtain ⟨⟨⟨outcome, t⟩, hrun⟩, hall⟩ := hx
  constructor
  · cases outcome with
    | ok a => exact ⟨_, .ok a, t, hrun, rfl⟩
    | error fault => exact ⟨_, .error fault, t, hrun, rfl⟩
  · rintro e ⟨outcome, t, hrun, hrest⟩
    have ht := hall _ hrun
    cases outcome with
    | ok a =>
      obtain rfl := hrest
      exact ⟨rfl, ht⟩
    | error fault =>
      obtain rfl := hrest
      exact ⟨rfl, ht⟩

/-- What listeners do together, whether or not they fail: what `R` says of each of them, put
together. -/
theorem deliver_of {R : List β → σ → σ → Prop} (hnil : ∀ s, R [] s s)
    (hcons : ∀ {b bs s t u}, R [b] s t → R bs t u → R (b :: bs) s u)
    {call : β → Possibly σ Unit} (hcall : ∀ b t, Ensures (call b) t fun e => R [b] t e.2)
    (bs : List β) (s : σ) :
    Ensures (SceneBridge.deliver call bs) s fun e => e.1 = .ok () ∧ R bs s e.2 := by
  induction bs generalizing s with
  | nil => exact pure ⟨rfl, hnil s⟩
  | cons b bs ih =>
    refine bind (caught (hcall b s)) (fun _ t ht => ?_) fun fault t ht => ?_
    · exact (ih t).mono fun e he => ⟨he.1, hcons ht.2 he.2⟩
    · cases ht.1

/-- Listeners that leave something alone, whether or not they fail, leave it alone together. -/
theorem deliver {R : σ → σ → Prop} (hR : IsStep R) {call : β → Possibly σ Unit}
    (hcall : ∀ b t, Ensures (call b) t fun e => R t e.2) (bs : List β) (s : σ) :
    Ensures (SceneBridge.deliver call bs) s fun e => e.1 = .ok () ∧ R s e.2 :=
  deliver_of (R := fun _ => R) hR.refl hR.trans hcall bs s

end Ensures

/-! ## Runs -/

/-- The computations that belong to some operations one after another, whether or not one of them
fails. -/
inductive Runs {ι : Type} (x : ι → Possibly σ Unit) : List ι → σ → σ → Prop where
  | nil (s : σ) : Runs x [] s s
  | cons {i : ι} {rest : List ι} {s t u : σ} {outcome : Except Fault Unit}
      (h : x i s (outcome, t)) (hrest : Runs x rest t u) : Runs x (i :: rest) s u

theorem Runs.append_cases {ι : Type} {x : ι → Possibly σ Unit} {is js : List ι} {s u : σ}
    (hrun : Runs x (is ++ js) s u) : ∃ t, Runs x is s t ∧ Runs x js t u := by
  induction is generalizing s with
  | nil => exact ⟨s, .nil s, hrun⟩
  | cons i is ih =>
    cases hrun with
    | cons h hrest =>
      obtain ⟨t, hfirst, hlast⟩ := ih hrest
      exact ⟨t, .cons h hfirst, hlast⟩

theorem Runs.advances {R : σ → σ → Prop} (hR : IsStep R) {ι : Type} {x : ι → Possibly σ Unit}
    {is : List ι} (hx : ∀ i ∈ is, Advances R (x i)) {s t : σ} (hrun : Runs x is s t) : R s t := by
  induction hrun with
  | nil s => exact hR.refl s
  | cons h _ ih =>
    have hfirst := hx _ List.mem_cons_self _ _ _ h
    exact hR.trans hfirst (ih fun i hi => hx i (List.mem_cons_of_mem _ hi))

end Possibly

end SceneBridge
