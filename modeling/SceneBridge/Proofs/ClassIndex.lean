import SceneBridge.Proofs.RegistryEntries
import SceneBridge.Registry.Constructors

/-!
# The index by class

Beside its constructors, a table keeps the name of each class of values. This name always stands
for a constructor of the class. A class of which a constructor is registered has a name unless it
is dropped: one of its constructors was taken out, and none came in since.
-/

namespace SceneBridge

/-! ## What happens to classes -/

section Events

variable {C : Type}

/-- What a change of a table is for a class. -/
inductive ClassEvent (C : Type) where
  /-- A constructor of the class came in. -/
  | defined (c : C)
  /-- A constructor of the class was taken out. -/
  | removed (c : C)

/-- Since the last constructor of the class came in, one was taken out. -/
def IsDropped (log : List (ClassEvent C)) (c : C) : Prop :=
  ∃ before after, log = before ++ .removed c :: after ∧ .defined c ∉ after

theorem isDropped_append {log : List (ClassEvent C)} {e : ClassEvent C} {c : C} :
    IsDropped (log ++ [e]) c ↔ e = .removed c ∨ e ≠ .defined c ∧ IsDropped log c := by
  constructor
  · rintro ⟨before, after, heq, hafter⟩
    obtain rfl | ⟨after, e', rfl⟩ := List.eq_nil_or_concat after
    · have hlast := congrArg List.getLast? heq
      rw [List.getLast?_concat, List.getLast?_concat] at hlast
      exact .inl (Option.some.inj hlast)
    · rw [List.concat_eq_append] at heq hafter
      rw [← List.cons_append, ← List.append_assoc] at heq
      obtain ⟨rfl, he⟩ := List.append_inj' heq rfl
      cases he
      simp only [List.mem_append, List.mem_singleton, not_or] at hafter
      exact .inr ⟨Ne.symm hafter.2, before, after, rfl, hafter.1⟩
  · rintro (rfl | ⟨he, before, after, rfl, hafter⟩)
    · exact ⟨log, [], rfl, List.not_mem_nil⟩
    · refine ⟨before, after ++ [e], by simp, ?_⟩
      simp only [List.mem_append, List.mem_singleton, not_or]
      exact ⟨hafter, Ne.symm he⟩

/-- The first class of an order of which `P` holds. -/
def IsNearest (P : C → Prop) (order : List C) (c : C) : Prop :=
  P c ∧ ∃ nearer further, order = nearer ++ c :: further ∧ ∀ d ∈ nearer, ¬ P d

theorem IsNearest.mem {P : C → Prop} {order : List C} {c : C} (h : IsNearest P order c) :
    c ∈ order := by
  obtain ⟨-, nearer, further, rfl, -⟩ := h
  simp

/-- One that is behind in the order is the nearest unless `P` holds of the first one. -/
theorem isNearest_cons {P : C → Prop} {order : List C} {b c : C} :
    IsNearest P (b :: order) c ↔ P b ∧ c = b ∨ ¬ P b ∧ IsNearest P order c := by
  constructor
  · rintro ⟨hc, nearer, further, heq, hnearer⟩
    cases nearer with
    | nil =>
      cases heq
      exact .inl ⟨hc, rfl⟩
    | cons d nearer =>
      cases heq
      exact .inr ⟨hnearer b List.mem_cons_self, hc, nearer, further, rfl,
        fun d hd => hnearer d (List.mem_cons_of_mem _ hd)⟩
  · rintro (⟨hb, rfl⟩ | ⟨hb, hc, nearer, further, rfl, hnearer⟩)
    · exact ⟨hb, [], order, rfl, nofun⟩
    · refine ⟨hc, b :: nearer, further, rfl, fun d hd => ?_⟩
      obtain rfl | hd := List.mem_cons.1 hd
      · exact hb
      · exact hnearer d hd

theorem exists_isNearest {P : C → Prop} {order : List C} (h : ∃ c ∈ order, P c) :
    ∃ c, IsNearest P order c := by
  induction order with
  | nil =>
    obtain ⟨c, hc, -⟩ := h
    cases hc
  | cons b order ih =>
    by_cases hb : P b
    · exact ⟨b, isNearest_cons.2 (.inl ⟨hb, rfl⟩)⟩
    · obtain ⟨c, hc, hP⟩ := h
      obtain rfl | hc := List.mem_cons.1 hc
      · exact absurd hP hb
      · obtain ⟨d, hd⟩ := ih ⟨c, hc, hP⟩
        exact ⟨d, isNearest_cons.2 (.inr ⟨hb, hd⟩)⟩

theorem IsNearest.unique {P : C → Prop} {order : List C} {c d : C} (hc : IsNearest P order c)
    (hd : IsNearest P order d) : c = d := by
  induction order with
  | nil => cases hc.mem
  | cons b order ih =>
    rw [isNearest_cons] at hc hd
    obtain ⟨hb, rfl⟩ | ⟨hb, hc⟩ := hc
    · exact (hd.resolve_right fun h => h.1 hb).2.symm
    · exact ih hc (hd.resolve_left fun h => hb h.1).2

end Events

/-! ## Tables -/

namespace ConstructorTable

variable {C α : Type} {classOf : α → Option C} {t t' : ConstructorTable C α}
  {log : List (ClassEvent C)}

/-- A constructor of the class is registered. -/
def Serves (t : ConstructorTable C α) (classOf : α → Option C) (c : C) : Prop :=
  ∃ a ∈ t.registry.values, classOf a = some c

theorem serves_append {byClass : List (C × String)} {key : String} {a : α} {c : C} :
    (⟨⟨t.registry.entries ++ [(key, a)]⟩, byClass⟩ : ConstructorTable C α).Serves classOf c ↔
      t.Serves classOf c ∨ classOf a = some c := by
  simp only [Serves, Registry.values, List.map_append, List.map_cons, List.map_nil,
    List.mem_append, List.mem_singleton]
  constructor
  · rintro ⟨b, hb | rfl, hc⟩
    · exact .inl ⟨b, hb, hc⟩
    · exact .inr hc
  · rintro (⟨b, hb, hc⟩ | hc)
    · exact ⟨b, .inl hb, hc⟩
    · exact ⟨a, .inr rfl, hc⟩

variable [BEq C]

/-- The names of the classes are those of constructors of them, and a class that has constructors
is without a name if it is dropped, and only then. -/
structure IsIndexed (t : ConstructorTable C α) (classOf : α → Option C)
    (log : List (ClassEvent C)) : Prop where
  named : ∀ {c name}, t.byClass.lookup c = some name →
    ∃ a, t.registry.lookup? (.text name) = some a ∧ classOf a = some c
  nameless_iff : ∀ {c}, t.Serves classOf c → (t.byClass.lookup c = none ↔ IsDropped log c)

theorem IsIndexed.empty : (empty : ConstructorTable C α).IsIndexed classOf log where
  named := nofun
  nameless_iff := by
    rintro c ⟨a, ha, -⟩
    cases ha

/-- Only the classes of the registered constructors matter. -/
theorem IsIndexed.congr {classOf' : α → Option C} (h : t.IsIndexed classOf log)
    (hsame : ∀ a ∈ t.registry.values, classOf' a = classOf a) : t.IsIndexed classOf' log where
  named hname := by
    obtain ⟨a, ha, hc⟩ := h.named hname
    exact ⟨a, ha, (hsame a (Registry.mem_values_of_lookup? ha)).trans hc⟩
  nameless_iff := by
    rintro c ⟨a, ha, hc⟩
    exact h.nameless_iff ⟨a, ha, (hsame a ha).symm.trans hc⟩

theorem IsIndexed.serves (h : t.IsIndexed classOf log) {c : C} {name : String}
    (hname : t.byClass.lookup c = some name) : t.Serves classOf c := by
  obtain ⟨a, ha, hc⟩ := h.named hname
  exact ⟨a, Registry.mem_values_of_lookup? ha, hc⟩

theorem IsIndexed.byClass_eq_some (h : t.IsIndexed classOf log) {c : C} (hc : t.Serves classOf c)
    (hkept : ¬ IsDropped log c) : ∃ name, t.byClass.lookup c = some name :=
  Option.ne_none_iff_exists'.1 fun hnone => hkept ((h.nameless_iff hc).1 hnone)

theorem IsIndexed.not_dropped (h : t.IsIndexed classOf log) {c : C} {name : String}
    (hname : t.byClass.lookup c = some name) : ¬ IsDropped log c := by
  intro hdropped
  rw [(h.nameless_iff (h.serves hname)).2 hdropped] at hname
  cases hname

/-! ## Names of classes -/

/-- A name is given if `P` holds of a class of the order, and only then, and it stands for a
constructor of the nearest such class. -/
structure FindsNearest (t : ConstructorTable C α) (classOf : α → Option C) (P : C → Prop)
    (order : List C) (name? : Option String) : Prop where
  isSome_iff : name?.isSome ↔ ∃ c ∈ order, P c
  stands : ∀ name, name? = some name → ∃ a c, t.registry.lookup? (.text name) = some a ∧
    classOf a = some c ∧ IsNearest P order c

/-- An index that is kept gives the name of the nearest class that has one. -/
theorem IsIndexed.nameFor?_eq (h : t.IsIndexed classOf log) (order : List C) :
    t.nameFor? order = order.findSome? (t.byClass.lookup ·) := by
  rw [nameFor?]
  congr
  funext c
  cases hname : t.byClass.lookup c with
  | none => rfl
  | some name =>
    obtain ⟨a, ha, -⟩ := h.named hname
    simp only [ha, Option.map_some]

/-- The classes that have names are those that have constructors and are not dropped. -/
theorem IsIndexed.findsNearest (h : t.IsIndexed classOf log) (order : List C) :
    t.FindsNearest classOf (fun c => t.Serves classOf c ∧ ¬ IsDropped log c) order
      (t.nameFor? order) := by
  have hnamed {c : C} : t.Serves classOf c ∧ ¬ IsDropped log c ↔
      ∃ name, t.byClass.lookup c = some name :=
    ⟨fun hc => h.byClass_eq_some hc.1 hc.2,
      fun ⟨_, hname⟩ => ⟨h.serves hname, h.not_dropped hname⟩⟩
  rw [h.nameFor?_eq order]
  simp only [hnamed]
  induction order with
  | nil => exact ⟨by simp, nofun⟩
  | cons c order ih =>
    cases hname : t.byClass.lookup c with
    | none =>
      rw [List.findSome?_cons, hname]
      refine ⟨?_, fun name hfound => ?_⟩
      · rw [ih.isSome_iff]
        simp [hname]
      · obtain ⟨a, d, ha, hd, hnearest⟩ := ih.stands name hfound
        exact ⟨a, d, ha, hd, isNearest_cons.2 (.inr ⟨by simp [hname], hnearest⟩)⟩
    | some name =>
      rw [List.findSome?_cons, hname]
      refine ⟨by simp [hname], fun name' heq => ?_⟩
      cases heq
      obtain ⟨a, ha, hc⟩ := h.named hname
      exact ⟨a, c, ha, hc, isNearest_cons.2 (.inl ⟨⟨name, hname⟩, rfl⟩)⟩

/-- The name of a class is that of a constructor of the nearest class that has any, unless this
class is dropped. -/
theorem IsIndexed.findsNearest_iff (h : t.IsIndexed classOf log) (order : List C) :
    t.FindsNearest classOf (t.Serves classOf) order (t.nameFor? order) ↔
      ∀ c, IsNearest (t.Serves classOf) order c → ¬ IsDropped log c := by
  have hfinds := h.findsNearest order
  constructor
  · intro hclaimed c hc hdropped
    have hsome := hclaimed.isSome_iff.2 ⟨c, hc.mem, hc.1⟩
    obtain ⟨name, hname⟩ := Option.isSome_iff_exists.1 hsome
    obtain ⟨a, d, ha, hd, hnearest⟩ := hclaimed.stands name hname
    obtain ⟨a', d', ha', hd', hkept⟩ := hfinds.stands name hname
    cases ha.symm.trans ha'
    cases hd.symm.trans hd'
    rw [hc.unique hnearest] at hdropped
    exact hkept.1.2 hdropped
  · intro hkept
    have hsame {c : C} (hc : IsNearest (t.Serves classOf) order c) :
        IsNearest (fun c => t.Serves classOf c ∧ ¬ IsDropped log c) order c := by
      obtain ⟨hserves, nearer, further, heq, hnearer⟩ := hc
      exact ⟨⟨hserves, hkept c ⟨hserves, nearer, further, heq, hnearer⟩⟩, nearer, further, heq,
        fun d hd hd' => hnearer d hd hd'.1⟩
    refine ⟨hfinds.isSome_iff.trans ⟨fun ⟨c, hc, hP⟩ => ⟨c, hc, hP.1⟩, fun hserves => ?_⟩,
      fun name hname => ?_⟩
    · obtain ⟨c, hc⟩ := exists_isNearest hserves
      exact ⟨c, hc.mem, (hsame hc).1⟩
    · obtain ⟨a, d, ha, hd, hnearest⟩ := hfinds.stands name hname
      obtain ⟨c, hc⟩ := exists_isNearest ⟨d, hnearest.mem, hnearest.1.1⟩
      rw [hnearest.unique (hsame hc)] at hd
      exact ⟨a, c, ha, hd, hc⟩

/-! ## Changes -/

theorem mem_values_of_define {clashes : α → Bool} {name : Datum} {a b : α} {c : Option C}
    (hclashes : ∀ old ∈ t.registry.values, clashes old = true)
    (ht : t.define clashes name a c = .ok t') (hb : b ∈ t'.registry.values) :
    b ∈ t.registry.values ∨ b = a := by
  rw [ConstructorTable.define, bind_eq_ok_iff] at ht
  obtain ⟨registry, hadd, ht⟩ := ht
  obtain ⟨key, -, -, rfl⟩ := Registry.add_eq_ok hclashes hadd
  have hregistry : t'.registry = ⟨t.registry.entries ++ [(key, a)]⟩ := by
    cases c <;> cases ht <;> rfl
  rw [hregistry] at hb
  simpa [Registry.values] using hb

theorem mem_values_of_remove {name : Datum} {b : α} {c : Option C}
    (ht : t.remove name c = .ok t') (hb : b ∈ t'.registry.values) : b ∈ t.registry.values := by
  rw [ConstructorTable.remove, bind_eq_ok_iff] at ht
  obtain ⟨registry, hremove, ht⟩ := ht
  obtain ⟨key, -, rfl⟩ := Registry.remove_eq_ok hremove
  have hregistry : t'.registry = ⟨Entries.remove t.registry.entries key⟩ := by
    cases c <;> cases ht <;> rfl
  rw [hregistry] at hb
  exact Registry.mem_values_of_remove hb

variable [LawfulBEq C]

/-- A new constructor keeps the index. -/
theorem IsIndexed.define {clashes : α → Bool} {name : Datum} {a : α} {c? : Option C}
    (h : t.IsIndexed classOf log) (hclashes : ∀ old ∈ t.registry.values, clashes old = true)
    (hclass : classOf a = c?) (ht : t.define clashes name a c? = .ok t') :
    t'.IsIndexed classOf (log ++ (c?.map ClassEvent.defined).toList) := by
  rw [ConstructorTable.define, bind_eq_ok_iff] at ht
  obtain ⟨registry, hadd, ht⟩ := ht
  obtain ⟨key, hkey, hnew, rfl⟩ := Registry.add_eq_ok hclashes hadd
  cases c? with
  | none =>
    cases ht
    rw [Option.map_none, Option.toList_none, List.append_nil]
    refine ⟨fun hname => ?_, fun hserves => ?_⟩
    · obtain ⟨b, hb, hc⟩ := h.named hname
      exact ⟨b, Registry.lookup?_append hb, hc⟩
    · rw [serves_append, hclass] at hserves
      exact h.nameless_iff (hserves.resolve_right nofun)
  | some own =>
    cases ht
    rw [Option.map_some, Option.toList_some]
    refine ⟨fun {c name'} hname => ?_, fun {c} hserves => ?_⟩
    · by_cases hc : c = own
      · subst hc
        rw [Entries.lookup_put_self] at hname
        cases hname
        rw [Registry.plain_of_keyOfDatum hkey]
        exact ⟨a, Registry.lookup?_append_self hkey hnew, hclass⟩
      · rw [Entries.lookup_put_of_ne _ _ hc] at hname
        obtain ⟨b, hb, hb'⟩ := h.named hname
        exact ⟨b, Registry.lookup?_append hb, hb'⟩
    · rw [isDropped_append]
      by_cases hc : c = own
      · subst hc
        rw [Entries.lookup_put_self]
        simp
      · rw [serves_append, hclass, Option.some_inj] at hserves
        rw [Entries.lookup_put_of_ne _ _ hc, h.nameless_iff (hserves.resolve_right (Ne.symm hc))]
        simp [Ne.symm hc]

/-- The table without one of its constructors keeps the index. -/
theorem IsIndexed.remove {name : Datum} (h : t.IsIndexed classOf log)
    (ht : t.remove name ((t.registry.lookup? name).bind classOf) = .ok t') :
    t'.IsIndexed classOf
      (log ++ (((t.registry.lookup? name).bind classOf).map ClassEvent.removed).toList) := by
  rw [ConstructorTable.remove, bind_eq_ok_iff] at ht
  obtain ⟨registry, hremove, ht⟩ := ht
  obtain ⟨key, hkey, rfl⟩ := Registry.remove_eq_ok hremove
  rw [Registry.lookup?_of_keyOfDatum hkey] at ht ⊢
  have hstays {c : C} (hc : (t.registry.entries.lookup key).bind classOf ≠ some c) {name' : String}
      (hname : t.byClass.lookup c = some name') : ∃ b,
        (⟨Entries.remove t.registry.entries key⟩ : Registry α).lookup? (.text name') = some b ∧
        classOf b = some c := by
    obtain ⟨b, hb, hb'⟩ := h.named hname
    refine ⟨b, Registry.lookup?_remove (fun hold => hc ?_) hb, hb'⟩
    rw [hold, Option.bind_some, hb']
  have hserved {byClass : List (C × String)} {c : C}
      (hc : (⟨⟨Entries.remove t.registry.entries key⟩, byClass⟩ : ConstructorTable C α).Serves
        classOf c) : t.Serves classOf c := by
    obtain ⟨b, hb, hb'⟩ := hc
    exact ⟨b, Registry.mem_values_of_remove hb, hb'⟩
  cases hclass : (t.registry.entries.lookup key).bind classOf with
  | none =>
    rw [hclass] at ht
    cases ht
    rw [Option.map_none, Option.toList_none, List.append_nil]
    exact ⟨fun hname => hstays (by simp [hclass]) hname, fun hc => h.nameless_iff (hserved hc)⟩
  | some own =>
    rw [hclass] at ht
    cases ht
    rw [Option.map_some, Option.toList_some]
    refine ⟨fun {c name'} hname => ?_, fun {c} hc => ?_⟩
    · by_cases hown : c = own
      · subst hown
        rw [Entries.lookup_remove_self] at hname
        cases hname
      · rw [Entries.lookup_remove_of_ne _ hown] at hname
        exact hstays (by simpa [hclass] using Ne.symm hown) hname
    · rw [isDropped_append]
      by_cases hown : c = own
      · subst hown
        simp [Entries.lookup_remove_self]
      · rw [Entries.lookup_remove_of_ne _ hown, h.nameless_iff (hserved hc)]
        simp [Ne.symm hown]

end ConstructorTable

end SceneBridge
