import SceneBridge.Proofs.GraphWorld
import SceneBridge.Proofs.LinkLoops

/-!
# A graph that its listeners change

Nodes whose listeners add and remove nodes themselves, as often and as deeply nested as they like.
A link is announced as soon as it is made or broken, and so the graph always comes of what was
announced. But a node that was taken from its parent to be added elsewhere may be added to a third
node by those who are told of that, and has two places then. The graph is consistent all along if
and only if this never happens.
-/

namespace SceneBridge

open Possibly

namespace LinkTable

variable {g h : LinkTable} {as bs : List Announcement} {a : Announcement}

/-- The graph that comes of what was announced among new nodes. -/
def ofAnnounced (as : List Announcement) : LinkTable :=
  as.foldl after fun _ => .none

/-- Whenever a node was added, it had no parent. -/
def AddsOnlyFree (as : List Announcement) : Prop :=
  ∀ bs c p, bs ++ [⟨c, .added, p⟩] <+: as → (ofAnnounced bs c).parent = none

theorem ofAnnounced_append_singleton (as : List Announcement) (a : Announcement) :
    ofAnnounced (as ++ [a]) = (ofAnnounced as).after a := by
  unfold ofAnnounced
  rw [List.foldl_append]
  rfl

theorem AddsOnlyFree.of_prefix (has : AddsOnlyFree as) (h : bs <+: as) : AddsOnlyFree bs :=
  fun cs c p hcs => has cs c p (hcs.trans h)

theorem Leads.append_cases (hlead : Leads g (as ++ bs) h) : ∃ k, Leads g as k ∧ Leads k bs h := by
  induction as generalizing g with
  | nil => exact ⟨g, .nil g, hlead⟩
  | cons a as ih =>
    cases hlead with
    | cons ha hrest =>
      obtain ⟨k, hk, hlast⟩ := ih hrest
      exact ⟨k, .cons ha hk, hlast⟩

/-- The graph was consistent after each change, and each change was proper. -/
theorem Leads.of_prefix (hlead : Leads (fun _ => .none) as g) (hbs : bs ++ [a] <+: as) :
    (ofAnnounced bs).IsConsistent ∧ (ofAnnounced bs).IsProper a := by
  obtain ⟨cs, rfl⟩ := hbs
  obtain ⟨k, hfirst, -⟩ := hlead.append_cases
  obtain ⟨j, hj, hlast⟩ := hfirst.append_cases
  cases hlast with
  | cons ha _ =>
    obtain rfl := hj.eq_foldl
    exact ⟨hj.isConsistent isConsistent_none, ha⟩

theorem Leads.addsOnlyFree (hlead : Leads (fun _ => .none) as g) : AddsOnlyFree as :=
  fun _ _ _ hbs => (hlead.of_prefix hbs).2.1

/-- Where a node with a parent is added, the graph is not consistent before and after that. -/
theorem addsOnlyFree_of_isConsistent
    (hall : ∀ bs, bs <+: as → (ofAnnounced bs).IsConsistent) : AddsOnlyFree as := by
  intro bs c p hbs
  have hbefore := hall bs ((List.prefix_append bs _).trans hbs)
  have hafter := hall _ hbs
  rw [ofAnnounced_append_singleton] at hafter
  cases hparent : (ofAnnounced bs c).parent with
  | none => rfl
  | some q =>
    exfalso
    have hchild := (hbefore.mem_children_iff q c).2 hparent
    have hnew : ((ofAnnounced bs).after ⟨c, .added, p⟩ c).parent = some p := by
      simp [after, link]
    by_cases hq : q = p
    · subst hq
      -- The node is a child of its parent twice.
      have hnodup := hafter.nodup q
      have hnot : c ∉ (ofAnnounced bs q).children := by
        simp only [after, link, children_setChildren, children_setParent, if_true] at hnodup
        exact fun hmem => List.disjoint_of_nodup_append hnodup hmem List.mem_cons_self
      exact hnot hchild
    · have hold : c ∈ ((ofAnnounced bs).after ⟨c, .added, p⟩ q).children := by
        simpa [after, link, hq] using hchild
      rw [hafter.mem_children_iff, hnew] at hold
      exact hq (Option.some.inj hold).symm

theorem Leads.isConsistent_iff
    (hlead : AddsOnlyFree as → Leads (fun _ => .none) as (ofAnnounced as)) :
    (∀ bs, bs <+: as → (ofAnnounced bs).IsConsistent) ↔ AddsOnlyFree as := by
  refine ⟨addsOnlyFree_of_isConsistent, fun hfree bs hbs => ?_⟩
  obtain ⟨cs, rfl⟩ := hbs
  obtain ⟨k, hk, -⟩ := (hlead hfree).append_cases
  have hsame : k = ofAnnounced bs := hk.eq_foldl
  exact hsame ▸ hk.isConsistent isConsistent_none

end LinkTable

open LinkTable

namespace GraphWorld

variable {V : Type} {w x : GraphWorld V}

/-! ## Listeners -/

section Among

variable (heard : Possibly (GraphWorld V) Unit)

/-- The graph among listeners that do `heard`, whose nodes do not remove children in a way of their
own. -/
def bareGraphAmong : Graph (Possibly (GraphWorld V)) Unit where
  links node := read (·.links node)
  setLinks node l := change fun w => { w with links := Function.update w.links node l }
  announce node linkChange parent := do
    change fun w => { w with announced := w.announced ++ [⟨node, linkChange, parent⟩] }
    SceneBridge.announce (read (·.listeners node)) linkChange fun _ => heard
  detach _ _ := pure ()

/-- The graph among listeners that do `heard`. -/
def graphAmong : Graph (Possibly (GraphWorld V)) Unit :=
  { bareGraphAmong heard with detach := (bareGraphAmong heard).remove }

/-- What the operation does among listeners that do `heard`. -/
def Operation.act : Operation → Possibly (GraphWorld V) Unit
  | add parent children => (graphAmong heard).add parent (children.map nodeOf)
  | remove parent children => (graphAmong heard).remove parent children.reduceOption
  | clear parent => (graphAmong heard).clear parent
  | leave node => (graphAmong heard).leave node
  | elsewhere => aside

end Among

/-- All that listeners may do if calls are nested to a depth: any operations, one after another,
whether or not they fail. -/
def heard : (depth : Nat) → Possibly (GraphWorld V) Unit
  | 0 => aside
  | n + 1 => often (anything (choose (Operation.act (heard n))))

/-! ## What was announced -/

/-- The graph comes of what was announced, each change of which was proper, unless a node with a
parent was added. -/
structure IsTold (w : GraphWorld V) : Prop where
  links : w.links = ofAnnounced w.announced
  leads : AddsOnlyFree w.announced → Leads (fun _ => .none) w.announced w.links

/-- The computation keeps to what was announced. -/
def StaysTold {α : Type} (x : Possibly (GraphWorld V) α) : Prop :=
  Advances (fun w x => w.IsTold → x.IsTold) x

theorem isTold_isStep : IsStep fun w x : GraphWorld V => w.IsTold → x.IsTold :=
  .of_invariant _

/-- One more link was made or broken, and announced. -/
theorem IsTold.after (hw : w.IsTold) {a : Announcement} (hlinks : x.links = w.links.after a)
    (hannounced : x.announced = w.announced ++ [a])
    (hproper : AddsOnlyFree (w.announced ++ [a]) → w.links.IsConsistent → w.links.IsProper a) :
    x.IsTold where
  links := by rw [hlinks, hannounced, ofAnnounced_append_singleton, hw.links]
  leads hfree := by
    rw [hannounced] at hfree ⊢
    have hlead := hw.leads (hfree.of_prefix (List.prefix_append _ _))
    have ha := hproper hfree (hlead.isConsistent isConsistent_none)
    rw [hlinks]
    exact hlead.append (.cons ha (.nil _))

theorem aside_staysTold : StaysTold (aside : Possibly (GraphWorld V) Unit) := by
  intro w outcome x hrun hw
  have hkept : KeepsGraph w x := hrun
  exact ⟨by rw [hkept.links, hkept.announced, hw.links],
    by rw [hkept.links, hkept.announced]; exact hw.leads⟩

section Among

variable {heard : Possibly (GraphWorld V) Unit} (hheard : StaysTold heard)

include hheard

theorem removeChild_staysTold (p c : Nat) : StaysTold ((bareGraphAmong heard).removeChild p c) := by
  intro w outcome x hrun hw
  replace hrun := read_bind.1 hrun
  by_cases hchild : (w.links p).children.contains c = true
  · rw [if_pos hchild] at hrun
    replace hrun := change_bind.1 hrun
    replace hrun := read_bind.1 hrun
    replace hrun := change_bind.1 hrun
    replace hrun := read_bind.1 (change_bind.1 hrun)
    refine Advances.deliver isTold_isStep (fun _ _ => hheard) _ _ _ hrun ?_
    refine hw.after (a := ⟨c, .removed, p⟩) rfl rfl fun _ hconsistent => ?_
    exact (hconsistent.mem_children_iff p c).1 (by simpa using hchild)
  · rw [if_neg hchild] at hrun
    obtain ⟨-, rfl⟩ := Prod.mk.inj hrun
    exact hw

theorem remove_staysTold (p : Nat) (children : List Nat) :
    StaysTold ((bareGraphAmong heard).remove p children) :=
  .forM isTold_isStep fun c _ => removeChild_staysTold hheard p c

theorem leave_staysTold (c : Nat) : StaysTold ((graphAmong heard).leave c) := by
  refine .bind isTold_isStep (.read isTold_isStep _) fun l => ?_
  cases l.parent with
  | none => exact .pure isTold_isStep _
  | some p =>
    exact .bind isTold_isStep (remove_staysTold hheard p [c]) fun _ => .pure isTold_isStep _

theorem addChild_staysTold (p c : Nat) : StaysTold ((graphAmong heard).addChild p c) := by
  by_cases hself : c = p
  · have hnothing : (graphAmong heard).addChild p c = pure () := by
      unfold Graph.addChild
      simp [hself]
    rw [hnothing]
    exact .pure isTold_isStep ()
  · have hadd : (graphAmong heard).addChild p c = (do
        (graphAmong heard).leave c
        (graphAmong heard).setLinks c { (← (graphAmong heard).links c) with parent := some p }
        let l ← (graphAmong heard).links p
        (graphAmong heard).setLinks p { l with children := l.children ++ [c] }
        (graphAmong heard).announce c .added p) := by
      unfold Graph.addChild
      simp [hself]
    rw [hadd]
    refine .bind isTold_isStep (leave_staysTold hheard c) fun _ => ?_
    intro w outcome x hrun hw
    replace hrun := read_bind.1 hrun
    replace hrun := change_bind.1 hrun
    replace hrun := read_bind.1 hrun
    replace hrun := change_bind.1 hrun
    replace hrun := read_bind.1 (change_bind.1 hrun)
    refine Advances.deliver isTold_isStep (fun _ _ => hheard) _ _ _ hrun ?_
    refine hw.after (a := ⟨c, .added, p⟩) rfl rfl fun hfree _ => ⟨?_, hself⟩
    rw [hw.links]
    exact hfree w.announced c p (List.prefix_refl _)

theorem act_staysTold (op : Operation) : StaysTold (op.act heard) := by
  cases op with
  | add parent children =>
    refine .forM isTold_isStep fun child hchild => ?_
    obtain ⟨thing, -, rfl⟩ := List.mem_map.1 hchild
    refine .bind isTold_isStep ?_ fun c => addChild_staysTold hheard parent c
    cases thing with
    | none => exact .throw isTold_isStep _
    | some c => exact .pure isTold_isStep c
  | remove parent children => exact remove_staysTold hheard parent children.reduceOption
  | clear parent =>
    exact .bind isTold_isStep (.read isTold_isStep _) fun l => remove_staysTold hheard parent _
  | leave node => exact leave_staysTold hheard node
  | elsewhere => exact aside_staysTold

end Among

theorem heard_staysTold (depth : Nat) : StaysTold (heard depth : Possibly (GraphWorld V) Unit) := by
  induction depth with
  | zero => exact aside_staysTold
  | succ n ih => exact .often isTold_isStep (.anything (.choose (act_staysTold ih)))

/-- Whatever was done to new nodes, the graph comes of what was announced. -/
theorem isTold_of_runs {start : GraphWorld V} (hfresh : start.IsFresh) {depth : Nat}
    {ops : List Operation} (hrun : Runs (Operation.act (heard depth)) ops start w) : w.IsTold := by
  refine hrun.advances isTold_isStep (fun op _ => act_staysTold (heard_staysTold depth) op) ?_
  refine ⟨?_, fun _ => ?_⟩
  · rw [hfresh.links, hfresh.announced]
    rfl
  · rw [hfresh.links, hfresh.announced]
    exact .nil _

theorem act_heard_zero :
    (Operation.act (heard 0) : Operation → Possibly (GraphWorld V) Unit) = Operation.run := by
  funext op
  cases op <;> rfl

/-- Where listeners leave the graph alone, no node with a parent is ever added. -/
theorem addsOnlyFree_of_runs {start : GraphWorld V} (hfresh : start.IsFresh) {ops : List Operation}
    (hrun : Runs (Operation.act (heard 0)) ops start w) : AddsOnlyFree w.announced := by
  rw [act_heard_zero] at hrun
  exact (links_as_announced hfresh hrun).2.1.addsOnlyFree

end GraphWorld

end SceneBridge
