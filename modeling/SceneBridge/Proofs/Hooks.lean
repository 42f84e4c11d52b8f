import SceneBridge.Proofs.AdapterSteps
import SceneBridge.Proofs.HookWorld
import SceneBridge.Proofs.ObjectRuns

/-!
# Hooks and rounds

Whom an element calls for a batch, and how often batches are handed out. An update calls the hooks
of the element and then those who are subscribed at that time, all with one batch, whatever any of
them does meanwhile. The hook for the first update is called once. Rounds of updates end when
nothing is pending or when their number is used up, also for an element that never settles.
-/

namespace SceneBridge

open Possibly

/-! ## Calls in a history -/

section Calls

variable {V : Type} {cs ds part later : List (Happening V)}

/-- These calls and no others happen in a part of a history, in this order; it begins with the first
one. -/
inductive OnlyCalls : List (Happening V) → List (Happening V) → Prop where
  | nil : OnlyCalls [] []
  | cons {c : Happening V} {cs between later : List (Happening V)} (hcall : c.isCall = true)
    (hbetween : ∀ h ∈ between, h.isCall = false) (hlater : OnlyCalls cs later) :
    OnlyCalls (c :: cs) (c :: (between ++ later))

theorem OnlyCalls.append (h : OnlyCalls cs part) (h' : OnlyCalls ds later) :
    OnlyCalls (cs ++ ds) (part ++ later) := by
  induction h with
  | nil => exact h'
  | cons hcall hbetween _ ih =>
    rw [List.cons_append, List.cons_append, List.append_assoc]
    exact .cons hcall hbetween ih

theorem batch?_of_not_call {h : Happening V} (hcall : h.isCall = false) (hook : Hook) :
    h.batch? hook = none := by
  cases h with
  | called other batch => cases hcall
  | _ => rfl

theorem batches_of_not_calls (hpart : ∀ h ∈ part, h.isCall = false) (hook : Hook) :
    batches hook part = [] :=
  List.filterMap_eq_nil_iff.2 fun h hh => batch?_of_not_call (hpart h hh) hook

theorem batches_append (hook : Hook) (part later : List (Happening V)) :
    batches hook (part ++ later) = batches hook part ++ batches hook later :=
  List.filterMap_append

/-- The batches of a hook are those of the calls. -/
theorem OnlyCalls.batches_eq (h : OnlyCalls cs part) (hook : Hook) :
    batches hook part = batches hook cs := by
  induction h with
  | nil => rfl
  | @cons c cs between later _ hbetween _ ih =>
    have hcons (hs : List (Happening V)) :
        batches hook (c :: hs) = batches hook [c] ++ batches hook hs :=
      batches_append hook [c] hs
    rw [hcons, hcons cs, batches_append, batches_of_not_calls hbetween, ih, List.nil_append]

variable [BEq V]

/-- What an update does for a batch, after what happened before: the hooks are called, the one for
the first update only if no batch was handed out before, and then all who are subscribed when
the hooks are done are told the names of the batch, once for each subscription. -/
def HandsOut (past part : List (Happening V)) (batch : List (String × V)) : Prop :=
  ∃ hooks telling, part = hooks ++ telling ∧
    OnlyCalls (.called .update batch ::
      ((if batches .update past = [] then [.called .firstUpdated batch] else []) ++
        [.called .updated batch])) hooks ∧
    OnlyCalls ((subscribed (past ++ hooks)).map (.told · (batch.map (·.1)))) telling

/-- So many batches are handed out one after another. -/
inductive HandsOutAll : (past : List (Happening V)) → Nat → (part : List (Happening V)) → Prop where
  | nil (past : List (Happening V)) : HandsOutAll past 0 []
  | cons {past part later : List (Happening V)} {batch : List (String × V)} {k : Nat}
    (hfirst : HandsOut past part batch) (hlater : HandsOutAll (past ++ part) k later) :
    HandsOutAll past (k + 1) (part ++ later)

omit [BEq V] in
theorem batches_told (ss : List V) (names : List String) (hook : Hook) :
    batches hook (ss.map (Happening.told · names)) = [] := by
  refine List.filterMap_eq_nil_iff.2 fun h hh => ?_
  obtain ⟨s, -, rfl⟩ := List.mem_map.1 hh
  rfl

theorem HandsOut.batches_update {past : List (Happening V)} {batch : List (String × V)}
    (h : HandsOut past part batch) : batches .update part = [batch] := by
  obtain ⟨hooks, telling, rfl, hhooks, htelling⟩ := h
  rw [batches_append, hhooks.batches_eq, htelling.batches_eq, batches_told]
  split <;> rfl

theorem HandsOut.batches_firstUpdated {past : List (Happening V)} {batch : List (String × V)}
    (h : HandsOut past part batch) :
    batches .firstUpdated part = if batches .update past = [] then [batch] else [] := by
  obtain ⟨hooks, telling, rfl, hhooks, htelling⟩ := h
  rw [batches_append, hhooks.batches_eq, htelling.batches_eq, batches_told]
  split <;> rfl

end Calls

namespace HookWorld

variable {V : Type} [BEq V] {nothing : V} {textValue : String → V}
  {code : Possibly (HookWorld V) Unit} {u v w : HookWorld V} {part later cs ds : List (Happening V)}

/-! ## What happens -/

/-- This is what happened between two states. The history tells who is subscribed, and the element
has updated if it had. -/
structure Goes (part : List (Happening V)) (v w : HookWorld V) : Prop where
  history : w.history = v.history ++ part
  hasUpdated : w.state.hasUpdated = v.state.hasUpdated
  subscribers : v.state.subscribers = subscribed v.history →
    w.state.subscribers = subscribed w.history

theorem Goes.trans (h : Goes part u v) (h' : Goes later v w) : Goes (part ++ later) u w where
  history := by rw [h'.history, h.history, List.append_assoc]
  hasUpdated := h'.hasUpdated.trans h.hasUpdated
  subscribers := h'.subscribers ∘ h.subscribers

theorem Goes.of_state {s : ElementState V V} (hupdated : s.hasUpdated = v.state.hasUpdated)
    (hsubscribers : s.subscribers = v.state.subscribers) : Goes [] v { v with state := s } where
  history := (List.append_nil _).symm
  hasUpdated := hupdated
  subscribers h := hsubscribers.trans h

/-- A call changes nothing about who is subscribed. -/
theorem Goes.of_call {h : Happening V} (hcall : h.isCall = true) : Goes [h] v (v.note h) where
  history := rfl
  hasUpdated := rfl
  subscribers hv := by
    have hsame : Happening.subscribers (subscribed v.history) h = subscribed v.history := by
      cases h with
      | called hook batch => rfl
      | told subscriber names => rfl
      | _ => cases hcall
    rw [note, subscribed, List.foldl_append, List.foldl_cons, List.foldl_nil, ← subscribed, hsame]
    exact hv

/-- Something happened, but no call. -/
def IsQuiet (v w : HookWorld V) : Prop :=
  ∃ part, (∀ h ∈ part, h.isCall = false) ∧ Goes part v w

theorem IsQuiet.of_state {s : ElementState V V} (hupdated : s.hasUpdated = v.state.hasUpdated)
    (hsubscribers : s.subscribers = v.state.subscribers) : IsQuiet v { v with state := s } :=
  ⟨[], List.forall_mem_nil _, .of_state hupdated hsubscribers⟩

theorem isQuiet_isStep : IsStep (IsQuiet (V := V)) where
  refl v := .of_state rfl rfl
  trans h₁ h₂ := by
    obtain ⟨part, hpart, hgoes⟩ := h₁
    obtain ⟨later, hlater, hgoes'⟩ := h₂
    exact ⟨part ++ later, List.forall_mem_append.2 ⟨hpart, hlater⟩, hgoes.trans hgoes'⟩

/-! ## Code of hooks and subscribers -/

theorem modify_isQuiet {f : ElementState V V → ElementState V V}
    (hupdated : ∀ s, (f s).hasUpdated = s.hasUpdated)
    (hsubscribers : ∀ s, (f s).subscribers = s.subscribers) :
    Advances IsQuiet (stateCell.modify f) := by
  rw [stateCell, cell_modify]
  exact .change fun w => .of_state (hupdated w.state) (hsubscribers w.state)

theorem recordChange_isQuiet (name : String) (old : V) :
    Advances IsQuiet (stateCell.modify (·.record name old)) := by
  have hrecord (s : ElementState V V) : (s.record name old).hasUpdated = s.hasUpdated ∧
      (s.record name old).subscribers = s.subscribers := by
    unfold ElementState.record
    split <;> exact ⟨rfl, rfl⟩
  exact modify_isQuiet (fun s => (hrecord s).1) fun s => (hrecord s).2

theorem setProperty_isQuiet (hcode : Advances IsQuiet code) (name : String) (value : V) :
    Advances IsQuiet ((element nothing code).setProperty name value) := by
  have hR := isQuiet_isStep (V := V)
  refine .bind hR (Element.property_advances hR (.read hR _) name) fun old => ?_
  refine .bind hR (modify_isQuiet (fun _ => rfl) fun _ => rfl) fun _ => ?_
  refine .bind hR (.anything hcode) fun differs => ?_
  cases differs with
  | true => exact recordChange_isQuiet name old
  | false => exact .pure hR _

theorem setAttribute_isQuiet (hcode : Advances IsQuiet code) (attr text : String) (value : V) :
    Advances IsQuiet ((element nothing code).setAttribute attr text value) := by
  have hR := isQuiet_isStep (V := V)
  refine .bind hR (modify_isQuiet (fun _ => rfl) fun _ => rfl) fun _ => ?_
  refine .bind hR (.read hR _) fun s => ?_
  cases s.propertyFor? attr with
  | some name => exact setProperty_isQuiet hcode name value
  | none => exact .pure hR _

theorem removeAttribute_isQuiet (hcode : Advances IsQuiet code) (attr : String) :
    Advances IsQuiet ((element nothing code).removeAttribute attr) := by
  have hR := isQuiet_isStep (V := V)
  intro v outcome w hrun
  have hrest := read_bind.1 hrun
  cases hhas : Entries.has v.state.attributes attr with
  | false =>
    simp only [hhas] at hrest
    obtain ⟨-, rfl⟩ := Prod.mk.inj hrest
    exact hR.refl _
  | true =>
    simp only [hhas] at hrest
    have hwrite := change_bind.1 hrest
    let s := { v.state with attributes := Entries.remove v.state.attributes attr }
    have hs : IsQuiet v { v with state := s } := .of_state rfl rfl
    cases hname : v.state.propertyFor? attr with
    | none =>
      simp only [hname] at hwrite
      obtain ⟨-, rfl⟩ := Prod.mk.inj hwrite
      exact hs
    | some name =>
      simp only [hname] at hwrite
      exact hR.trans hs (setProperty_isQuiet hcode name nothing _ _ _ hwrite)

/-- A subscription is noted and made. -/
theorem subscriptions_isQuiet {h : Happening V} {f : List V → List V} (hcall : h.isCall = false)
    (hf : ∀ listeners, h.subscribers listeners = f listeners) : Advances IsQuiet (do
      change (·.note h)
      (element nothing code).state.modify fun s => { s with subscribers := f s.subscribers }) := by
  intro v outcome w hrun
  have hmodify := change_bind.1 hrun
  obtain ⟨-, rfl⟩ := Prod.mk.inj ((Ends.modify _ _ _ _ _).1 hmodify)
  refine ⟨[h], List.forall_mem_singleton.2 hcall, rfl, rfl, fun hv => ?_⟩
  have hnoted : subscribed (v.history ++ [h]) = h.subscribers (subscribed v.history) := by
    rw [subscribed, List.foldl_append]
    rfl
  exact (congrArg f hv).trans ((hf _).symm.trans hnoted.symm)

theorem deed_isQuiet (hcode : Advances IsQuiet code) (deed : Deed V) :
    Advances IsQuiet (deed.run nothing textValue code) := by
  cases deed with
  | setProperty name value => exact setProperty_isQuiet hcode name value
  | setAttribute attr text => exact setAttribute_isQuiet hcode attr text _
  | removeAttribute attr => exact removeAttribute_isQuiet hcode attr
  | requestUpdate name old => exact recordChange_isQuiet name old
  | declare name attr => exact modify_isQuiet (fun _ => rfl) fun _ => rfl
  | subscribe listener => exact subscriptions_isQuiet rfl fun _ => rfl
  | unsubscribe listener => exact subscriptions_isQuiet rfl fun _ => rfl
  | arrange listeners isConnected => exact modify_isQuiet (fun _ => rfl) fun _ => rfl

theorem behave_isQuiet (depth : Nat) :
    Advances IsQuiet (behave (V := V) nothing textValue depth) := by
  -- What is called at some depth does deeds that call code of less depth.
  induction depth with
  | zero => exact .pure isQuiet_isStep ()
  | succ n ih => exact .often isQuiet_isStep (.choose fun deed => .anything (deed_isQuiet ih deed))

theorem behave_idle (depth : Nat) (w : HookWorld V) :
    behave nothing textValue depth w (.ok (), w) := by
  cases depth with
  | zero => rfl
  | succ n => exact ⟨0, rfl⟩

/-- Code outside comes to an end. -/
theorem behave_ensures (depth : Nat) (w : HookWorld V) :
    Ensures (behave nothing textValue depth) w fun e => IsQuiet w e.2 :=
  ⟨⟨_, behave_idle depth w⟩, fun _ hrun => behave_isQuiet depth _ _ _ hrun⟩

/-! ## Calls -/

/-- Just these calls were made between two states. -/
def Made (cs : List (Happening V)) (v w : HookWorld V) : Prop :=
  ∃ part, OnlyCalls cs part ∧ Goes part v w

theorem Made.trans (h : Made cs u v) (h' : Made ds v w) : Made (cs ++ ds) u w := by
  obtain ⟨part, hpart, hgoes⟩ := h
  obtain ⟨later, hlater, hgoes'⟩ := h'
  exact ⟨part ++ later, hpart.append hlater, hgoes.trans hgoes'⟩

theorem Made.of_call {h : Happening V} (hcall : h.isCall = true) (hquiet : IsQuiet (v.note h) w) :
    Made [h] v w := by
  obtain ⟨between, hbetween, hgoes⟩ := hquiet
  refine ⟨h :: (between ++ []), .cons hcall hbetween .nil, ?_⟩
  rw [List.append_nil]
  exact (Goes.of_call hcall).trans hgoes

section Update

variable (hcode : ∀ w, Ensures code w fun e => IsQuiet w e.2)

include hcode

theorem hooked_ensures (hook : Hook) (batch : List (String × V)) (w : HookWorld V) :
    Ensures (hooked code hook batch) w fun e => e.1 = .ok () ∧ Made [.called hook batch] w e.2 := by
  refine .of_ends (.change _ w) ?_
  exact (Ensures.caught (hcode _)).mono fun e he => ⟨he.1, .of_call rfl he.2⟩

/-- Each of some subscribers is told, whether or not another one fails. -/
theorem deliver_ensures (names : List String) (ss : List V) (w : HookWorld V) :
    Ensures (deliver ((element nothing code).notify · names) ss) w
      fun e => e.1 = .ok () ∧ Made (ss.map (.told · names)) w e.2 := by
  refine Ensures.deliver_of (R := fun ss v w => Made (ss.map (.told · names)) v w)
    (fun v => ⟨[], .nil, .of_state rfl rfl⟩) (fun h h' => h.trans h') (fun s v => ?_) ss w
  refine .of_ends (.change _ v) ?_
  exact (Ensures.anything (hcode _)).mono fun e he => Made.of_call rfl he

/-- The calls were made, and all who were subscribed after them were told the names of the batch. -/
def Finishes (cs : List (Happening V)) (batch : List (String × V)) (v w : HookWorld V) : Prop :=
  ∃ hooks telling, OnlyCalls cs hooks ∧
    OnlyCalls ((subscribed (v.history ++ hooks)).map (.told · (batch.map (·.1)))) telling ∧
    Goes (hooks ++ telling) v w

omit hcode in
theorem Finishes.after {batch : List (String × V)} (h : Made cs u v)
    (h' : Finishes ds batch v w) : Finishes (cs ++ ds) batch u w := by
  obtain ⟨part, hpart, hgoes⟩ := h
  obtain ⟨hooks, telling, hhooks, htelling, hgoes'⟩ := h'
  refine ⟨part ++ hooks, telling, hpart.append hhooks, ?_, ?_⟩
  · rw [← List.append_assoc, ← hgoes.history]
    exact htelling
  · rw [List.append_assoc]
    exact hgoes.trans hgoes'

/-- Those are told who are subscribed when the last hook has returned. -/
theorem tell_ensures (batch : List (String × V)) (hv : v.state.subscribers = subscribed v.history) :
    Ensures (do
      (element nothing code).updated batch
      deliver ((element nothing code).notify · (batch.map (·.1)))
        (← (element nothing code).state.get).subscribers) v
      fun e => e.1 = .ok () ∧ Finishes [.called .updated batch] batch v e.2 := by
  refine .bind (hooked_ensures hcode .updated batch v) (fun _ t ht => ?_) fun fault t ht => ?_
  · obtain ⟨hooks, hhooks, hgoes⟩ := ht.2
    -- Who is to be told is read once; subscriptions made from then on are part of what follows.
    refine .of_ends (.read _ t) ?_
    refine (deliver_ensures hcode _ _ t).mono fun e ⟨hok, telling, htelling, hgoes'⟩ => ⟨hok, ?_⟩
    refine ⟨hooks, telling, hhooks, ?_, hgoes.trans hgoes'⟩
    rw [← hgoes.history, ← hgoes.subscribers hv]
    exact htelling
  · cases ht.1

theorem finishUpdate_ensures (batch : List (String × V))
    (hv : v.state.subscribers = subscribed v.history) :
    Ensures ((element nothing code).finishUpdate batch) v fun e => e.1 = .ok () ∧
      Finishes ((if v.state.hasUpdated then [] else [.called .firstUpdated batch]) ++
        [.called .updated batch]) batch { v with state := { v.state with hasUpdated := true } }
        e.2 := by
  let u : HookWorld V := { v with state := { v.state with hasUpdated := true } }
  refine .of_ends (.read _ v) (.of_ends (.modify _ _ _ v) ?_)
  cases hfirst : v.state.hasUpdated with
  | true => exact tell_ensures hcode batch hv (v := u)
  | false =>
    refine .bind (hooked_ensures hcode .firstUpdated batch u) (fun _ t ht => ?_)
      fun fault t ht => ?_
    · obtain ⟨part, -, hgoes⟩ := ht.2
      refine (tell_ensures hcode batch (hgoes.subscribers hv)).mono fun e he => ?_
      exact ⟨he.1, .after ht.2 he.2⟩
    · cases ht.1

end Update

/-! ## Updates -/

/-- The history tells who is subscribed and whether the element has updated; the hook for the first
update was called with the first batch and with no other one. -/
structure IsKept (w : HookWorld V) : Prop where
  subscribers : w.state.subscribers = subscribed w.history
  hasUpdated : w.state.hasUpdated = true ↔ batches .update w.history ≠ []
  first : batches .firstUpdated w.history = (batches .update w.history).take 1

theorem IsKept.fresh : IsKept (fresh : HookWorld V) where
  subscribers := rfl
  hasUpdated := by simp [HookWorld.fresh, ElementState.empty, batches]
  first := rfl

theorem IsKept.of_quiet (h : IsKept v) (hquiet : IsQuiet v w) : IsKept w := by
  obtain ⟨part, hpart, hgoes⟩ := hquiet
  have hbatches (hook : Hook) : batches hook w.history = batches hook v.history := by
    rw [hgoes.history, batches_append, batches_of_not_calls hpart, List.append_nil]
  refine ⟨hgoes.subscribers h.subscribers, ?_, ?_⟩
  · rw [hgoes.hasUpdated, hbatches]
    exact h.hasUpdated
  · rw [hbatches, hbatches]
    exact h.first

theorem IsKept.of_handsOut {batch : List (String × V)} (h : IsKept v)
    (hhistory : w.history = v.history ++ part) (hpart : HandsOut v.history part batch)
    (hupdated : w.state.hasUpdated = true)
    (hsubscribers : w.state.subscribers = subscribed w.history) : IsKept w := by
  have hupdate : batches .update w.history = batches .update v.history ++ [batch] := by
    rw [hhistory, batches_append, hpart.batches_update]
  refine ⟨hsubscribers, by simp [hupdated, hupdate], ?_⟩
  rw [hupdate, hhistory, batches_append, hpart.batches_firstUpdated, h.first]
  cases batches .update v.history <;> simp

/-- The element has updated if and only if a batch was handed out. -/
theorem IsKept.firstCalls (h : IsKept v) (batch : List (String × V)) :
    (if v.state.hasUpdated = true then [] else [Happening.called .firstUpdated batch]) =
      if batches .update v.history = [] then [.called .firstUpdated batch] else [] := by
  by_cases hnone : batches .update v.history = []
  · rw [if_pos hnone, if_neg fun hupdated => h.hasUpdated.1 hupdated hnone]
  · rw [if_neg hnone, if_pos (h.hasUpdated.2 hnone)]

/-- What an update comes to that finds something pending. -/
def Updates (v : HookWorld V) (e : Except Fault Bool × HookWorld V) : Prop :=
  e.1 = .ok true ∧ ∃ part, e.2.history = v.history ++ part ∧
    HandsOut v.history part v.state.changed

omit [BEq V] in
theorem performUpdate_ends (hpending : v.state.isPending = false) :
    Ends (element nothing code).performUpdate v false v := by
  refine .bind (.read _ v) ?_
  simp only [hpending]
  exact .pure false v

section Rounds

variable (hcode : ∀ w, Ensures code w fun e => IsQuiet w e.2)

include hcode

theorem performUpdate_ensures (h : IsKept v) (hpending : v.state.isPending = true) :
    Ensures (element nothing code).performUpdate v fun e => Updates v e ∧ IsKept e.2 := by
  let u : HookWorld V := { v with state := { v.state with changed := [] } }
  refine .of_ends (.read _ v) ?_
  simp only [hpending]
  -- The batch is taken before any hook is called: what hooks change waits for the next one.
  refine .of_ends (.modify _ _ _ v) ?_
  refine .bind (hooked_ensures hcode .update _ u) (fun _ t ht => ?_) fun fault t ht => ?_
  · obtain ⟨first, hfirst, hgoes⟩ := ht.2
    have hsubscribers : t.state.subscribers = subscribed t.history :=
      hgoes.subscribers h.subscribers
    have hhistory : t.history = v.history ++ first := hgoes.history
    have hupdated : t.state.hasUpdated = v.state.hasUpdated := hgoes.hasUpdated
    refine .bind (finishUpdate_ensures hcode _ hsubscribers) (fun _ x hx => .pure ?_)
      fun fault x hx => ?_
    · obtain ⟨-, hooks, telling, hhooks, htelling, hgoes'⟩ := hx
      -- Whether the hook for the first update is called was settled before the update began.
      have hcalls := hfirst.append hhooks
      rw [hupdated, h.firstCalls] at hcalls
      have hpart : HandsOut v.history (first ++ hooks ++ telling) v.state.changed := by
        refine ⟨first ++ hooks, telling, rfl, hcalls, ?_⟩
        rw [← List.append_assoc, ← hhistory]
        exact htelling
      have hlast : x.history = v.history ++ (first ++ hooks ++ telling) := by
        rw [List.append_assoc, ← List.append_assoc, ← hhistory]
        exact hgoes'.history
      have hkept := h.of_handsOut hlast hpart hgoes'.hasUpdated (hgoes'.subscribers hsubscribers)
      exact ⟨⟨rfl, _, hlast, hpart⟩, hkept⟩
    · cases hx.1
  · cases ht.1

/-- What rounds of updates come to: so many batches are handed out, and if there are fewer than the
limit, then nothing is pending. -/
def Flushes (limit : Nat) (v : HookWorld V) (e : Except Fault Nat × HookWorld V) : Prop :=
  ∃ k part, e.1 = .ok k ∧ k ≤ limit ∧ e.2.history = v.history ++ part ∧
    HandsOutAll v.history k part ∧ (k < limit → e.2.state.isPending = false)

theorem flush_ensures (limit : Nat) (h : IsKept v) :
    Ensures ((element nothing code).flush limit) v fun e => Flushes limit v e ∧ IsKept e.2 := by
  induction limit generalizing v with
  | zero =>
    refine .pure ⟨⟨0, [], rfl, Nat.le_refl 0, (List.append_nil _).symm, .nil _, fun h => ?_⟩, h⟩
    cases h
  | succ n ih =>
    cases hpending : v.state.isPending with
    | false =>
      refine .of_ends (performUpdate_ends hpending) (.pure ⟨⟨0, [], rfl, ?_⟩, h⟩)
      exact ⟨Nat.zero_le _, (List.append_nil _).symm, .nil _, fun _ => hpending⟩
    | true =>
      refine .bind (performUpdate_ensures hcode h hpending) (fun more t ht => ?_)
        fun fault t ht => ?_
      · obtain ⟨⟨hmore, part, hhistory, hpart⟩, hkept⟩ := ht
        obtain rfl := Except.ok.inj hmore
        refine .bind (ih hkept) (fun k x hx => .pure ?_) fun fault x hx => ?_
        · obtain ⟨⟨_, later, hk, hle, hlater, hall, hidle⟩, hkept'⟩ := hx
          obtain rfl := Except.ok.inj hk
          refine ⟨⟨k + 1, part ++ later, rfl, Nat.succ_le_succ hle, ?_, ?_, ?_⟩, hkept'⟩
          · rw [hlater, hhistory, List.append_assoc]
          · rw [hhistory] at hall
            exact .cons hpart hall
          · exact fun hlt => hidle (Nat.lt_of_succ_lt_succ hlt)
        · obtain ⟨⟨_, _, hk, -⟩, -⟩ := hx
          cases hk
      · cases ht.1.1

theorem complete_ensures (h : IsKept v) :
    Ensures (element nothing code).complete v fun e =>
      e.1 = .ok (!e.2.state.isPending) ∧ IsKept e.2 ∧ ∃ k ≤ Element.usualRounds, ∃ part,
        e.2.history = v.history ++ part ∧ HandsOutAll v.history k part := by
  refine .bind (flush_ensures hcode Element.usualRounds h) (fun k t ht => ?_) fun fault t ht => ?_
  · obtain ⟨⟨_, part, hk, hle, hhistory, hall, -⟩, hkept⟩ := ht
    exact .of_ends (.read _ t) (.pure ⟨rfl, hkept, _, hle, part, hhistory, hall⟩)
  · obtain ⟨⟨_, _, hk, -⟩, -⟩ := ht
    cases hk

theorem performUpdate_isKept (h : IsKept v) {outcome : Except Fault Bool}
    (hrun : (element nothing code).performUpdate v (outcome, w)) : IsKept w := by
  cases hpending : v.state.isPending with
  | true => exact ((performUpdate_ensures hcode h hpending).2 _ hrun).2
  | false =>
    obtain ⟨-, rfl⟩ := Prod.mk.inj ((performUpdate_ends hpending _).1 hrun)
    exact h

end Rounds

/-! ## Runs -/

theorem possibly_isKept (op : HookOperation V) :
    Advances (fun v w => IsKept v → IsKept w) (op.possibly nothing textValue) := by
  have hR : IsStep fun v w : HookWorld V => IsKept v → IsKept w := .of_invariant IsKept
  refine .choose fun depth => ?_
  have hcode (u : HookWorld V) : Ensures (behave nothing textValue depth) u fun e =>
      IsQuiet u e.2 := behave_ensures depth u
  cases op with
  | deed d =>
    refine Advances.mono (fun v w hquiet h => h.of_quiet hquiet) ?_
    exact deed_isQuiet (behave_isQuiet depth) d
  | performUpdate =>
    refine .bind hR (fun _ _ _ hrun h => ?_) fun _ => .pure hR _
    exact performUpdate_isKept hcode h hrun
  | flush limit =>
    refine .bind hR (fun _ _ _ hrun h => ?_) fun _ => .pure hR _
    exact ((flush_ensures hcode limit.toNat h).2 _ hrun).2
  | complete =>
    refine .bind hR (fun _ _ _ hrun h => ?_) fun _ => .pure hR _
    exact ((complete_ensures hcode h).2 _ hrun).2.1

/-- A limit below zero lets no round begin. -/
theorem runs_rounds (limit : Int) (u : World) :
    Act.Runs (Act.rounds (.int limit)) u limit.toNat u := by
  refine (Act.runs_see (.int limit) u).bind ?_
  simp only [Act.see_int, Datum.quantity?]
  exact Act.runs_pure _ u

/-- Rounds of updates with a limit handed out `k` batches, for which `part` happened. -/
structure HandsOutWithin (limit : Int) (v : HookWorld V) (e : Except Fault Nat × HookWorld V)
    (k : Nat) (part : List (Happening V)) : Prop where
  answer : e.1 = .ok k
  atMost : (k : Int) ≤ max limit 0
  history : e.2.history = v.history ++ part
  batches : HandsOutAll v.history k part
  /-- There are fewer batches than the limit only if nothing is pending then. -/
  settled : (k : Int) < limit → e.2.state.isPending = false

/-- The element was updated to a limit, and the answer tells if nothing is pending. -/
structure Completes (limit : Nat) (v : HookWorld V) (e : Except Fault Bool × HookWorld V) :
    Prop where
  answer : e.1 = .ok (!e.2.state.isPending)
  batches : ∃ k ≤ limit, ∃ part, e.2.history = v.history ++ part ∧ HandsOutAll v.history k part

/-- What the history of the element tells, and what updates of it come to, whatever its hooks and
subscribers do, with calls nested to a depth. -/
structure IsServed (nothing : V) (textValue : String → V) (depth : Nat) (w : HookWorld V) :
    Prop where
  subscribers : w.state.subscribers = subscribed w.history
  /-- The hook for the first update was called at most once. -/
  atMostOnce : (batches .firstUpdated w.history).length ≤ 1
  /-- It was called with the first batch. -/
  first : batches .firstUpdated w.history = (batches .update w.history).take 1
  pending : w.state.isPending = true →
    Ensures (among nothing textValue depth).performUpdate w (Updates w)
  idle : w.state.isPending = false → Ends (among nothing textValue depth).performUpdate w false w
  /-- A limit below zero lets no round begin. -/
  rounds : ∀ (limit : Int) (u : World), Act.Runs (Act.rounds (.int limit)) u limit.toNat u
  flush : ∀ limit : Int, Ensures ((among nothing textValue depth).flush limit.toNat) w fun e =>
    ∃ k part, HandsOutWithin limit w e k part
  complete : Ensures (among nothing textValue depth).complete w (Completes 16 w)

/-- One change of a property. -/
def tick : List (String × String) := [("tick", "")]

/-- An element for which the change is pending, after some history. -/
def ticking (history : List (Happening String)) (hasUpdated : Bool) : HookWorld String where
  state := { ElementState.empty with changed := tick, hasUpdated := hasUpdated }
  history := history

/-- The element among code that does something once. -/
def tickingElement : Element (Possibly (HookWorld String)) String String :=
  among "" id 1

theorem hooked_idle (depth : Nat) (hook : Hook) (batch : List (String × V)) (w : HookWorld V) :
    hooked (behave nothing textValue depth) hook batch w (.ok (), w.note (.called hook batch)) :=
  ⟨.ok (), _, rfl, .ok (), _, behave_idle depth _, rfl⟩

/-- An update during which the update hook asks for another one. -/
theorem performUpdate_ticking (history : List (Happening String)) (hasUpdated : Bool) :
    ∃ later, tickingElement.performUpdate (ticking history hasUpdated)
      (.ok true, ticking later true) := by
  let handed := history ++ [.called .update tick]
  let marked := if hasUpdated then handed else handed ++ [.called .firstUpdated tick]
  let taken : HookWorld String :=
    { ticking history hasUpdated with
      state := { (ticking history hasUpdated).state with changed := [] } }
  have hupdate : tickingElement.update tick taken (.ok (), ticking handed hasUpdated) := by
    refine ⟨.ok (), taken.note (.called .update tick), rfl, .ok (), _, ?_, rfl⟩
    refine ⟨1, .ok (), ticking handed hasUpdated, ⟨.requestUpdate "tick" "", .ok (), ?_⟩, rfl⟩
    exact (Ends.modify _ _ _ _ _).2 rfl
  have hlast (past : List (Happening String)) : (do
      tickingElement.updated tick
      deliver (tickingElement.notify · (tick.map (·.1)))
        (← tickingElement.state.get).subscribers : Possibly (HookWorld String) Unit)
      (ticking past true)
      (.ok (), ticking (past ++ [.called .updated tick]) true) :=
    ⟨.ok (), _, hooked_idle 1 .updated tick _, .ok _, _, rfl, rfl⟩
  have hfinish : tickingElement.finishUpdate tick (ticking handed hasUpdated)
      (.ok (), ticking (marked ++ [.called .updated tick]) true) := by
    refine ⟨.ok _, _, rfl, .ok (), ticking handed true, (Ends.modify _ _ _ _ _).2 rfl, ?_⟩
    cases hasUpdated with
    | true => exact hlast handed
    | false => exact ⟨.ok (), _, hooked_idle 1 .firstUpdated tick _, hlast _⟩
  refine ⟨marked ++ [.called .updated tick], .ok _, _, rfl, .ok (), taken, ?_, ?_⟩
  · exact (Ends.modify _ _ _ _ _).2 rfl
  · exact ⟨.ok (), _, hupdate, .ok (), _, hfinish, rfl⟩

theorem flush_ticking (limit : Nat) (history : List (Happening String)) (hasUpdated : Bool) :
    ∃ later updated, tickingElement.flush limit (ticking history hasUpdated)
      (.ok limit, ticking later updated) := by
  induction limit generalizing history hasUpdated with
  | zero => exact ⟨history, hasUpdated, rfl⟩
  | succ n ih =>
    obtain ⟨between, hperform⟩ := performUpdate_ticking history hasUpdated
    obtain ⟨later, updated, hflush⟩ := ih between true
    exact ⟨later, updated, .ok true, _, hperform, .ok n, _, hflush, rfl⟩

end HookWorld

end SceneBridge
