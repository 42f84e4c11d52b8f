import Mathlib.Data.List.Forall2
import SceneBridge.Convert.Conversion

/-!
# Conversions side by side

A conversion is put together from the operations of its surroundings. Where the operations
of two surroundings do the same, so do the conversions in them, whichever way of doing the
same is meant.
-/

namespace SceneBridge

variable {m n : Type → Type} [Monad m] [MonadExceptOf Fault m] [Monad n] [MonadExceptOf Fault n]

/-- A relation between computations of two kinds. -/
abbrev Relator (m n : Type → Type) := (α : Type) → m α → n α → Prop

/-- The relation holds of computations that are put together alike from related ones. -/
structure IsPairing (Same : Relator m n) : Prop where
  pure : ∀ {α : Type} (a : α), Same _ (pure a) (pure a)
  throw : ∀ {α : Type} (f : Fault), Same _ (throw f : m α) (throw f)
  bind : ∀ {α β : Type} {x : m α} {y : n α} {f : α → m β} {g : α → n β}, Same _ x y →
    (∀ a, Same _ (f a) (g a)) → Same _ (x >>= f) (y >>= g)
  tryCatch : ∀ {α : Type} {x : m α} {y : n α} {f : Fault → m α} {g : Fault → n α}, Same _ x y →
    (∀ fault, Same _ (f fault) (g fault)) → Same _ (tryCatchThe Fault x f) (tryCatchThe Fault y g)

/-- A looser relation, which holds of the related computations and is kept where computations
come one after another. -/
structure IsLoosePairing (Same Loose : Relator m n) : Prop where
  of_same : ∀ {α : Type} {x : m α} {y : n α}, Same _ x y → Loose _ x y
  bind : ∀ {α β : Type} {x : m α} {y : n α} {f : α → m β} {g : α → n β}, Loose _ x y →
    (∀ a, Loose _ (f a) (g a)) → Loose _ (x >>= f) (y >>= g)

variable {V C : Type}

/-- The operations of the surroundings do the same. -/
structure Surroundings.IsPaired (Same : Relator m n) (k : Surroundings m V C)
    (l : Surroundings n V C) : Prop where
  see : ∀ v, Same _ (k.see v) (l.see v)
  ofDatum : ∀ d, Same _ (k.ofDatum d) (l.ofDatum d)
  items? : ∀ v, Same _ (k.items? v) (l.items? v)
  entries? : ∀ v, Same _ (k.entries? v) (l.entries? v)
  memberOf : ∀ v name, Same _ (k.memberOf v name) (l.memberOf v name)
  textOf : ∀ v, Same _ (k.textOf v) (l.textOf v)
  list : ∀ vs, Same _ (k.list vs) (l.list vs)
  record : ∀ es, Same _ (k.record es) (l.record es)
  constructor? : ∀ name, Same _ (k.constructor? name) (l.constructor? name)
  layout : ∀ c, Same _ (k.layout c) (l.layout c)
  accepts : ∀ c v, Same _ (k.accepts c v) (l.accepts c v)
  build : ∀ c vs, Same _ (k.build c vs) (l.build c vs)
  branchFailed : ∀ t v f, Same _ (k.note (.branchFailed t v f)) (l.note (.branchFailed t v f))

namespace IsPairing

variable {Same : Relator m n} (hS : IsPairing Same)

include hS

theorem lift {α : Type} (e : Except Fault α) :
    Same _ (Conversion.lift e : m α) (Conversion.lift e) := by
  cases e with
  | ok a => exact hS.pure a
  | error f => exact hS.throw f

theorem map [LawfulMonad m] [LawfulMonad n] {α β : Type} {x : m α} {y : n α} (f : α → β)
    (h : Same _ x y) : Same _ (f <$> x) (f <$> y) := by
  rw [map_eq_pure_bind, map_eq_pure_bind]
  exact hS.bind h fun a => hS.pure (f a)

/-- Doing the same is one way of being loosely related. -/
theorem loose : IsLoosePairing Same Same where
  of_same h := h
  bind := hS.bind

/-- Lists of loosely related computations are loosely related. -/
theorem loose_mapM [LawfulMonad m] [LawfulMonad n] {Loose : Relator m n}
    (hL : IsLoosePairing Same Loose) {α β : Type} {f : α → m β} {g : α → n β}
    (h : ∀ a, Loose _ (f a) (g a)) (as : List α) : Loose _ (as.mapM f) (as.mapM g) := by
  induction as with
  | nil =>
    rw [List.mapM_nil, List.mapM_nil]
    exact hL.of_same (hS.pure [])
  | cons a as ih =>
    rw [List.mapM_cons, List.mapM_cons]
    exact hL.bind (h a) fun b => hL.bind ih fun bs => hL.of_same (hS.pure (b :: bs))

theorem mapM [LawfulMonad m] [LawfulMonad n] {α β : Type} {f : α → m β} {g : α → n β}
    (h : ∀ a, Same _ (f a) (g a)) (as : List α) : Same _ (as.mapM f) (as.mapM g) :=
  hS.loose_mapM hS.loose h as

end IsPairing

namespace Conversion

variable {Same : Relator m n}
  (hS : IsPairing Same) {k : Surroundings m V C} {l : Surroundings n V C} (hk : k.IsPaired Same l)

include hS hk

/-! ## The steps of a conversion -/

theorem same_coerce (p : Primitive) (v : V) : Same _ (coerce k p v) (coerce l p v) := by
  refine hS.bind (hk.see v) fun d => ?_
  cases p with
  | number => exact hS.bind (hS.lift _) fun q => hk.ofDatum _
  | float => exact hS.bind (hS.lift _) fun x => hk.ofDatum _
  | int => exact hS.bind (hS.lift _) fun i => hk.ofDatum _
  | boolean => exact hS.bind (hS.lift _) fun b => hk.ofDatum _
  | string =>
    cases d with
    | text s => exact hS.pure v
    | _ => exact hS.bind (hk.textOf v) fun s => hk.ofDatum _

theorem same_get (key : String) (source : FieldSource V) :
    Same _ (source.get k key) (source.get l key) := by
  cases source with
  | entries es =>
    rw [FieldSource.get, FieldSource.get]
    split
    · exact hS.pure _
    · exact hk.ofDatum .null
  | data es => exact hk.ofDatum _
  | attributes v => exact hk.memberOf v key

theorem same_fieldSource (v : V) : Same _ (fieldSource k v) (fieldSource l v) := by
  refine hS.bind (hk.see v) fun d => ?_
  cases d with
  | text s =>
    dsimp only
    split
    · exact hS.throw _
    · exact hS.pure _
    · exact hS.pure _
    · exact hS.pure _
  | null => exact hS.pure _
  | _ =>
    refine hS.bind (hk.entries? v) fun es => ?_
    cases es with
    | some es => exact hS.pure _
    | none => exact hS.pure _

theorem same_convertFirst (v : V) (names : List String) {as : List TypeExpr}
    (has : ∀ a ∈ as, ∀ v, Same _ (convertAs k true v a) (convertAs l true v a)) :
    Same _ (convertFirst k v names as) (convertFirst l v names as) := by
  induction as with
  | nil =>
    rw [convertFirst, convertFirst]
    exact hS.bind (hk.see v) fun d => hS.throw _
  | cons a as ih =>
    rw [convertFirst, convertFirst]
    -- What fails is noted, and the next alternative is tried.
    refine hS.tryCatch (has a List.mem_cons_self v) fun f => ?_
    refine hS.bind (hk.branchFailed a v f) fun _ => ?_
    exact ih fun b hb => has b (List.mem_cons_of_mem _ hb)

/-! ## Parts, one after another -/

variable {Loose : Relator m n} (hL : IsLoosePairing Same Loose) {s r : Bool}

include hL

theorem loose_convertFields (source : FieldSource V) {fields fields' : List (String × TypeExpr)}
    (hfields : List.Forall₂ (fun f g => f.1 = g.1 ∧
      ∀ v, Loose _ (convertAs k s v f.2) (convertAs l r v g.2)) fields fields') :
    Loose _ (convertFields k s source fields) (convertFields l r source fields') := by
  induction hfields with
  | nil =>
    rw [convertFields, convertFields]
    exact hL.of_same (hS.pure [])
  | @cons f g fields fields' hf _ ih =>
    obtain ⟨key, t⟩ := f
    obtain ⟨_, u⟩ := g
    obtain ⟨rfl, htype⟩ := hf
    rw [convertFields, convertFields]
    refine hL.bind (hL.of_same (same_get hS hk key source)) fun v => ?_
    refine hL.bind (htype v) fun w => hL.bind ih fun ws => ?_
    exact hL.of_same (hS.pure ((key, w) :: ws))

omit hk in
theorem loose_convertParts {params params' : List TypeExpr}
    (hparams : List.Forall₂ (fun p q => ∀ v, Loose _ (convertAs k s v p) (convertAs l r v q))
      params params') (parts : List V) :
    Loose _ (convertParts k s parts params) (convertParts l r parts params') := by
  induction hparams generalizing parts with
  | nil =>
    rw [convertParts, convertParts]
    exact hL.of_same (hS.pure [])
  | cons hp _ ih =>
    cases parts with
    | nil =>
      rw [convertParts, convertParts]
      exact hL.of_same (hS.pure [])
    | cons v parts =>
      rw [convertParts, convertParts]
      refine hL.bind (hp v) fun w => hL.bind (ih parts) fun ws => ?_
      exact hL.of_same (hS.pure (w :: ws))

variable [LawfulMonad m] [LawfulMonad n]

/-! ## Steps through lists -/

omit hL in
theorem same_ofQuantities (qs : List Number.Quantity) :
    Same _ (ofQuantities k qs) (ofQuantities l qs) :=
  hS.mapM (fun q => hk.ofDatum (Datum.ofQuantity q)) qs

omit hL in
theorem same_buildFrom (c : C) (qs : List Number.Quantity) :
    Same _ (buildFrom k c qs) (buildFrom l c qs) := by
  refine hS.bind (same_ofQuantities hS hk qs) fun vs => hS.bind (hk.layout c) fun layout => ?_
  cases layout with
  | flat => exact hS.bind (hk.list vs) fun v => hk.build c [v]
  | positional => exact hk.build c vs
  | text => exact hk.build c vs

omit hL in
theorem same_buildValue (c : C) (v : V) : Same _ (buildValue k c v) (buildValue l c v) := by
  have hfrom (d : Datum) : Same _ (do buildFrom k c (← lift d.components))
      (do buildFrom l c (← lift d.components)) :=
    hS.bind (hS.lift d.components) fun qs => same_buildFrom hS hk c qs
  refine hS.bind (hk.accepts c v) fun known => ?_
  cases known with
  | true => exact hS.pure v
  | false =>
    refine hS.bind (hk.see v) fun d => hS.bind (hk.layout c) fun layout => ?_
    cases layout with
    | text =>
      cases d with
      | text s =>
        dsimp only
        split
        · exact hS.bind (same_ofQuantities hS hk _) fun vs => hk.build c vs
        · exact hS.bind (hk.ofDatum _) fun w => hk.build c [w]
      | _ => exact hfrom _
    | positional => exact hfrom d
    | flat => exact hfrom d

omit hL in
theorem same_listItems? (v : V) : Same _ (listItems? k v) (listItems? l v) := by
  refine hS.bind (hk.see v) fun d => ?_
  cases d with
  | text s => exact hS.bind (hS.mapM (fun p => hk.ofDatum _) _) fun vs => hS.pure (some vs)
  | array a =>
    obtain ⟨shape, cells⟩ := a
    cases shape with
    | nil => exact hS.throw _
    | cons size shape => exact hS.bind (hS.mapM hk.ofDatum _) fun vs => hS.pure (some vs)
  | _ => exact hk.items? v

omit hL in
theorem same_genericParts? (v : V) (size : Nat) :
    Same _ (genericParts? k v size) (genericParts? l v size) := by
  refine hS.bind (hk.see v) fun d => ?_
  cases d with
  | text s => exact hS.bind (hS.mapM (fun p => hk.ofDatum _) _) fun vs => hS.pure (some vs)
  | array a => exact hS.bind (hS.mapM (fun x => hk.ofDatum _) _) fun vs => hS.pure (some vs)
  | _ => exact hk.items? v

/-! ## One step into a type -/

section Steps

variable {v : V} {t u : TypeExpr}

omit hk in
theorem loose_orDegrade
    (hdegrade : ∀ reason, Loose _ (degrade k s v t reason) (degrade l r v u reason))
    {x : m V} {y : n V} (hx : Same _ x y) (kinds : FaultKind → Bool) (reason : Fault → Reason) :
    Loose _ (orDegrade k s v t kinds reason x) (orDegrade l r v u kinds reason y) := by
  have hcaught := hS.tryCatch (hS.map Except.ok hx) fun f =>
    hS.pure (Except.error f : Except Fault V)
  refine hL.bind (hL.of_same hcaught) fun outcome => ?_
  cases outcome with
  | ok w => exact hL.of_same (hS.pure w)
  | error f =>
    dsimp only
    split
    · exact hdegrade (reason f)
    · exact hL.of_same (hS.throw f)

theorem loose_convertScalar {name : String}
    (hdegrade : ∀ reason, Loose _ (degrade k s v (.scalar name) reason)
      (degrade l r v (.scalar name) reason)) :
    Loose _ (convertScalar k s v name) (convertScalar l r v name) := by
  rw [convertScalar, convertScalar]
  split
  · exact hL.of_same (hS.pure v)
  · cases primitive? name with
    | some p => exact loose_orDegrade hS hL hdegrade (same_coerce hS hk p v) _ _
    | none =>
      refine hL.bind (hL.of_same (hk.constructor? name)) fun found => ?_
      cases found with
      | none => exact hdegrade _
      | some c => exact loose_orDegrade hS hL hdegrade (same_buildValue hS hk c v) _ _

theorem loose_scalar {name : String}
    (hdegrade : ∀ reason, Loose _ (degrade k s v (.scalar name) reason)
      (degrade l r v (.scalar name) reason)) :
    Loose _ (convertAs k s v (.scalar name)) (convertAs l r v (.scalar name)) := by
  rw [convertAs, convertAs]
  refine hL.bind (hL.of_same (hk.see v)) fun d => ?_
  cases d with
  | null => exact hL.of_same (hS.pure v)
  | _ => exact loose_convertScalar hS hk hL hdegrade

theorem loose_array
    (hdegrade : ∀ reason, Loose _ (degrade k s v (.array t) reason)
      (degrade l r v (.array u) reason))
    (helement : ∀ v, Loose _ (convertAs k s v t) (convertAs l r v u)) :
    Loose _ (convertAs k s v (.array t)) (convertAs l r v (.array u)) := by
  rw [convertAs, convertAs]
  refine hL.bind (hL.of_same (hk.see v)) fun d => ?_
  cases d with
  | null => exact hL.of_same (hS.pure v)
  | _ =>
    refine hL.bind (hL.of_same (same_listItems? hS hk v)) fun items => ?_
    cases items with
    | none => exact hdegrade _
    | some items =>
      exact hL.bind (hS.loose_mapM hL helement items) fun vs => hL.of_same (hk.list vs)

theorem loose_generic {name : String} {params params' : List TypeExpr}
    (hdegrade : ∀ reason, Loose _ (degrade k s v (.generic name params) reason)
      (degrade l r v (.generic name params') reason))
    (hparams : List.Forall₂ (fun p q => ∀ v, Loose _ (convertAs k s v p) (convertAs l r v q))
      params params') :
    Loose _ (convertAs k s v (.generic name params)) (convertAs l r v (.generic name params')) := by
  rw [convertAs, convertAs]
  refine hL.bind (hL.of_same (hk.see v)) fun d => ?_
  cases d with
  | null => exact hL.of_same (hS.pure v)
  | _ =>
    refine hL.bind (hL.of_same (hk.constructor? name)) fun found => ?_
    cases found with
    | none => exact hdegrade _
    | some c =>
      refine hL.bind (hL.of_same (hk.accepts c v)) fun known => ?_
      cases known with
      | true => exact hL.of_same (hS.pure v)
      | false =>
        rw [hparams.length_eq]
        refine hL.bind (hL.of_same (same_genericParts? hS hk v _)) fun parts => ?_
        cases parts with
        | none => exact hdegrade _
        | some parts =>
          refine hL.bind (loose_convertParts hS hL hparams parts) fun args => ?_
          exact loose_orDegrade hS hL hdegrade (hk.build c args) _ _

omit [LawfulMonad m] [LawfulMonad n] in
theorem loose_record {fields fields' : List (String × TypeExpr)}
    (hdegrade : ∀ reason, Loose _ (degrade k s v (.record fields) reason)
      (degrade l r v (.record fields') reason))
    (hfields : List.Forall₂ (fun f g => f.1 = g.1 ∧
      ∀ v, Loose _ (convertAs k s v f.2) (convertAs l r v g.2)) fields fields') :
    Loose _ (convertAs k s v (.record fields)) (convertAs l r v (.record fields')) := by
  rw [convertAs, convertAs]
  refine hL.bind (hL.of_same (same_fieldSource hS hk v)) fun source => ?_
  cases source with
  | error reason => exact hdegrade _
  | ok source =>
    exact hL.bind (loose_convertFields hS hk hL source hfields) fun es => hL.of_same (hk.record es)

end Steps

/-! ## All types -/

omit hL in
/-- Conversions in surroundings that do the same are loosely related if letting a value pass
through is. Alternatives of choices are strict on both sides, and have to do the same. -/
theorem loose_convertAs
    (hstrict : ∀ v t reason, Same _ (degrade k true v t reason) (degrade l true v t reason))
    (hL : IsLoosePairing Same Loose)
    (hdegrade : ∀ v t reason, Loose _ (degrade k s v t reason) (degrade l r v t reason))
    (v : V) (t : TypeExpr) : Loose _ (convertAs k s v t) (convertAs l r v t) := by
  induction t generalizing Loose s r v with
  | scalar name => exact loose_scalar hS hk hL (hdegrade v _)
  | array element ih => exact loose_array hS hk hL (hdegrade v _) (ih hL hdegrade)
  | union as ih =>
    rw [convertAs, convertAs]
    -- Both sides are strict from here on, so the looser relation is not needed.
    exact hL.of_same (same_convertFirst hS hk v _ fun a ha w => ih a ha hS.loose hstrict w)
  | generic name params ih =>
    refine loose_generic hS hk hL (hdegrade v _) ?_
    exact List.forall₂_same.2 fun p hp => ih p hp hL hdegrade
  | record fields ih =>
    refine loose_record hS hk hL (hdegrade v _) ?_
    exact List.forall₂_same.2 fun f hf => ⟨rfl, ih f hf hL hdegrade⟩

end Conversion

end SceneBridge
