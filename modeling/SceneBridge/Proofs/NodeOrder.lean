import SceneBridge.Proofs.Following
import SceneBridge.Proofs.ToldNodes

/-!
# The order of the nodes below a node

Listing, visiting and searching the nodes below a node meet each node before the nodes below it, and
the children of a node in the order in which they were added, each of them with all that is below it
before the next one. In a graph without loops, this says of any two nodes which one comes first.
-/

namespace SceneBridge

open Possibly Relation
open scoped List

namespace LinkTable

variable {g h : LinkTable} {as : List Announcement} {a : Announcement} {n p c d x y : Nat}
  {nodes : List Nat} {depth : Nat}

/-! ## The order of children -/

/-- The nodes that were added to a node and to which nothing happened since, in the order in which
they were added. -/
def standing (p : Nat) : List Announcement → List Nat
  | [] => []
  | a :: as =>
    if a.change = .added ∧ a.parent = p ∧ ∀ b ∈ as, b.node ≠ a.node then
      a.node :: standing p as
    else
      standing p as

theorem standing_append_singleton (p : Nat) (as : List Announcement) (a : Announcement) :
    standing p (as ++ [a]) = (standing p as).filter (· != a.node) ++ standing p [a] := by
  induction as with
  | nil => rfl
  | cons b as ih =>
    rw [List.cons_append, standing, standing, ih]
    by_cases hstands : b.change = .added ∧ b.parent = p ∧ ∀ c ∈ as, c.node ≠ b.node
    · rw [if_pos hstands]
      by_cases hsame : b.node = a.node
      · simp [hsame]
      · have hrest : ∀ c ∈ as ++ [a], c.node ≠ b.node := by
          intro c hc
          obtain hc | hc := List.mem_append.1 hc
          · exact hstands.2.2 c hc
          · rw [List.mem_singleton.1 hc]
            exact Ne.symm hsame
        rw [if_pos ⟨hstands.1, hstands.2.1, hrest⟩, List.filter_cons_of_pos (by simpa using hsame),
          List.cons_append]
    · have hmore : ¬ (b.change = .added ∧ b.parent = p ∧ ∀ c ∈ as ++ [a], c.node ≠ b.node) :=
        fun h => hstands ⟨h.1, h.2.1, fun c hc => h.2.2 c (List.mem_append_left _ hc)⟩
      rw [if_neg hstands, if_neg hmore]

theorem length_standing_le (p : Nat) (as : List Announcement) :
    (standing p as).length ≤ as.length := by
  induction as with
  | nil => exact Nat.le_refl 0
  | cons a as ih =>
    rw [standing]
    split
    · exact Nat.succ_le_succ ih
    · exact Nat.le_succ_of_le ih

/-- A child is taken from where it was, and put after the other children. -/
theorem childrenOf_after (hg : g.IsConsistent) (ha : g.IsProper a) (p : Nat) :
    (g.after a).childrenOf p = (g.childrenOf p).filter (· != a.node) ++ standing p [a] := by
  obtain ⟨node, change, parent⟩ := a
  have hother (hnot : ¬ g.IsUnder node p) :
      (g.childrenOf p).filter (· != node) = g.childrenOf p := by
    refine List.filter_eq_self.2 fun c hc => ?_
    have hunder := hg.mem_childrenOf.1 hc
    simpa using fun heq : c = node => hnot (heq ▸ hunder)
  cases change with
  | added =>
    have hnone : (g node).parent = none := ha.1
    rw [hother (by simp [IsUnder, hnone])]
    by_cases hp : p = parent
    · simp [childrenOf, after, link, standing, hp]
    · simp [childrenOf, after, link, standing, hp, Ne.symm hp]
  | removed =>
    have hparent : g.IsUnder node parent := ha
    have hnothing : standing p [⟨node, .removed, parent⟩] = [] := by simp [standing]
    rw [hnothing, List.append_nil]
    by_cases hp : p = parent
    · rw [hp]
      simpa [childrenOf, after, unlink] using (hg.nodup parent).erase_eq_filter node
    · rw [hother fun hunder => hp (hunder.unique hparent)]
      simp [childrenOf, after, unlink, hp]

/-- The children of a node are the nodes of which the last that was announced is that they were
added to it, in the order in which that was announced. -/
theorem Leads.childrenOf_eq (hlead : Leads (fun _ => .none) as g) (p : Nat) :
    g.childrenOf p = standing p as := by
  induction as using List.reverseRecOn generalizing g with
  | nil =>
    cases hlead
    rfl
  | append_singleton as a ih =>
    obtain ⟨k, hk, hlast⟩ := hlead.append_cases
    obtain _ | ⟨ha, hrest⟩ := hlast
    obtain _ | _ := hrest
    rw [childrenOf_after (hk.isConsistent isConsistent_none) ha, ih hk, standing_append_singleton]

/-! ## The order of nodes -/

/-- The one node is above the other one, or it is at or below a child of some node, and the other
one at or below a later child. -/
def Precedes (g : LinkTable) (x y : Nat) : Prop :=
  g.IsBelow y x ∨ ∃ p c d, [c, d] <+ g.childrenOf p ∧ g.IsAtOrBelow x c ∧ g.IsAtOrBelow y d

/-- Two members of a list without repetitions come in one order only. -/
theorem not_sublist_swap {l : List Nat} (hl : l.Nodup) (hcd : [c, d] <+ l) : ¬ [d, c] <+ l := by
  intro hdc
  obtain ⟨r₁, r₂, rfl, hc, hd⟩ := List.cons_sublist_iff.1 hcd
  obtain ⟨s₁, s₂, heq, hd', hc'⟩ := List.cons_sublist_iff.1 hdc
  rw [List.singleton_sublist] at hd hc'
  have hdisjoint := List.disjoint_of_nodup_append hl
  have hdisjoint' := List.disjoint_of_nodup_append (heq ▸ hl)
  -- One of the two front parts is longer, and holds both.
  obtain ⟨t, rfl, -⟩ | ⟨t, rfl, -⟩ := List.append_eq_append_iff.1 heq
  · exact hdisjoint' (List.mem_append_left _ hc) hc'
  · exact hdisjoint (List.mem_append_left _ hd') hd

section Acyclic

variable (hg : g.IsConsistent) (hacyclic : g.IsAcyclic)

include hg hacyclic

theorem eq_of_atOrBelow_children (hc : c ∈ g.childrenOf p) (hd : d ∈ g.childrenOf p)
    (hxc : g.IsAtOrBelow x c) (hxd : g.IsAtOrBelow x d) : c = d := by
  by_contra hne
  exact hacyclic p
    (isBelow_of_two_children (hg.mem_childrenOf.1 hc) (hg.mem_childrenOf.1 hd) hne hxc hxd)

/-- Nothing is at or below two children of a node. -/
theorem not_atOrBelow_both (hcd : [c, d] <+ g.childrenOf p) (hxc : g.IsAtOrBelow x c) :
    ¬ g.IsAtOrBelow x d := by
  intro hxd
  have hc : c ∈ g.childrenOf p := hcd.subset (by simp)
  have hd : d ∈ g.childrenOf p := hcd.subset (by simp)
  have hne : c ≠ d := by simpa using (hg.nodup p).sublist hcd
  exact hne (eq_of_atOrBelow_children hg hacyclic hc hd hxc hxd)

/-- What is below a later child of a node is not, anywhere, below an earlier child. -/
theorem not_swapped {q c' d' : Nat} (hcd : [c, d] <+ g.childrenOf p) (hxc : g.IsAtOrBelow x c)
    (hyd : g.IsAtOrBelow y d) (hcd' : [c', d'] <+ g.childrenOf q) (hyc' : g.IsAtOrBelow y c') :
    ¬ g.IsAtOrBelow x d' := by
  intro hxd'
  have hc : g.IsUnder c p := hg.mem_childrenOf.1 (hcd.subset (by simp))
  have hd : g.IsUnder d p := hg.mem_childrenOf.1 (hcd.subset (by simp))
  have hc' : g.IsUnder c' q := hg.mem_childrenOf.1 (hcd'.subset (by simp))
  have hd' : g.IsUnder d' q := hg.mem_childrenOf.1 (hcd'.subset (by simp))
  have hright : Relator.RightUnique g.IsUnder := fun _ _ _ => IsUnder.unique
  by_cases hboth : c = d'
  · subst hboth
    obtain rfl := hc.unique hd'
    have hsame : d = c' := eq_of_atOrBelow_children hg hacyclic (hcd.subset (by simp))
      (hcd'.subset (by simp)) hyd hyc'
    exact not_sublist_swap (hg.nodup p) hcd (hsame ▸ hcd')
  -- Both `c` and `d'` are above `x`, so that one of them is above the other.
  obtain hle | hle := ReflTransGen.total_of_right_unique hright hxc hxd'
  · obtain hsame | ⟨p', hp', hrest⟩ := ReflTransGen.cases_head hle
    · exact hboth hsame
    · obtain rfl := hc.unique hp'
      exact not_atOrBelow_both hg hacyclic hcd' hyc' ((hyd.tail hd).trans hrest)
  · obtain hsame | ⟨q', hq', hrest⟩ := ReflTransGen.cases_head hle
    · exact hboth hsame.symm
    · obtain rfl := hd'.unique hq'
      exact not_atOrBelow_both hg hacyclic hcd ((hyc'.tail hc').trans hrest) hyd

theorem Precedes.asymm (hxy : g.Precedes x y) : ¬ g.Precedes y x := by
  intro hyx
  obtain hbelow | ⟨p, c, d, hcd, hxc, hyd⟩ := hxy
  · obtain hback | ⟨q, c', d', hcd', hyc', hxd'⟩ := hyx
    · exact hacyclic x (hback.trans hbelow)
    · exact not_atOrBelow_both hg hacyclic hcd' hyc' (hbelow.to_reflTransGen.trans hxd')
  · obtain hback | ⟨q, c', d', hcd', hyc', hxd'⟩ := hyx
    · exact not_atOrBelow_both hg hacyclic hcd hxc (hback.to_reflTransGen.trans hyd)
    · exact not_swapped hg hacyclic hcd hxc hyd hcd' hyc' hxd'

end Acyclic

theorem isAcyclic_of_lt (hlt : ∀ c p, g.IsUnder c p → p < c) : g.IsAcyclic := by
  intro n hloop
  have hbelow : ∀ m, g.IsBelow n m → m < n := by
    intro m hm
    induction hm with
    | single hc => exact hlt _ _ hc
    | tail _ hc ih => exact (hlt _ _ hc).trans ih
  exact (hbelow n hloop).false

/-! ## Levels -/

/-- From the first node, each of the others is a child of the one before it. -/
def IsWayDown (g : LinkTable) (n : Nat) (way : List Nat) : Prop :=
  (n :: way).IsChain fun p c => g.IsUnder c p

/-- As many levels have to be followed as the longest way down has nodes. -/
theorem isSome_nodesFrom_iff (hg : g.IsConsistent) : (nodesFrom g.childrenOf depth n).isSome ↔
    ∀ way, g.IsWayDown n way → way.length < depth := by
  induction depth generalizing n with
  | zero =>
    rw [nodesFrom]
    refine ⟨fun h => (by cases h), fun h => ?_⟩
    exact absurd (h [] (.singleton n)) (Nat.not_lt_zero _)
  | succ depth ih =>
    have hsome : (nodesFrom g.childrenOf (depth + 1) n).isSome ↔
        ∀ c ∈ g.childrenOf n, (nodesFrom g.childrenOf depth c).isSome := by
      rw [Option.isSome_iff_exists]
      constructor
      · rintro ⟨_, h⟩
        exact (nodesFrom_succ_eq_some.1 h).1
      · intro h
        exact ⟨_, nodesFrom_succ_eq_some.2 ⟨h, rfl⟩⟩
    rw [hsome]
    constructor
    · intro hall way hway
      cases way with
      | nil => exact Nat.succ_pos depth
      | cons c way =>
        obtain ⟨hc, hrest⟩ := List.isChain_cons_cons.1 hway
        exact Nat.succ_lt_succ (ih.1 (hall c (hg.mem_childrenOf.2 hc)) way hrest)
    · intro hall c hc
      refine ih.2 fun way hway => Nat.lt_of_succ_lt_succ (hall (c :: way) ?_)
      exact List.isChain_cons_cons.2 ⟨hg.mem_childrenOf.1 hc, hway⟩

/-- Following more levels lists no more nodes. -/
theorem nodesFrom_of_le {children : Nat → List Nat} {deeper : Nat}
    (hnodes : nodesFrom children depth n = some nodes) (hle : depth ≤ deeper) :
    nodesFrom children deeper n = some nodes := by
  induction deeper generalizing depth n nodes with
  | zero =>
    obtain rfl := Nat.le_zero.1 hle
    exact hnodes
  | succ deeper ih =>
    cases depth with
    | zero =>
      rw [nodesFrom] at hnodes
      cases hnodes
    | succ depth =>
      obtain ⟨hall, rfl⟩ := nodesFrom_succ_eq_some.1 hnodes
      have hsame (c : Nat) (hc : c ∈ children n) :
          nodesFrom children deeper c = nodesFrom children depth c := by
        obtain ⟨below, hbelow⟩ := Option.isSome_iff_exists.1 (hall c hc)
        rw [hbelow]
        exact ih hbelow (Nat.le_of_succ_le_succ hle)
      refine nodesFrom_succ_eq_some.2 ⟨fun c hc => hsame c hc ▸ hall c hc, congrArg _ ?_⟩
      exact List.flatMap_congr fun c hc => by rw [hsame c hc]

/-! ## Listing in order -/

theorem head?_nodesFrom (hnodes : nodesFrom g.childrenOf depth n = some nodes) :
    nodes.head? = some n := by
  cases depth with
  | zero =>
    rw [nodesFrom] at hnodes
    cases hnodes
  | succ d =>
    obtain ⟨-, rfl⟩ := nodesFrom_succ_eq_some.1 hnodes
    rfl

/-- Whatever is listed later comes later. -/
theorem pairwise_nodesFrom (hg : g.IsConsistent)
    (hnodes : nodesFrom g.childrenOf depth n = some nodes) : nodes.Pairwise g.Precedes := by
  induction depth generalizing n nodes with
  | zero =>
    rw [nodesFrom] at hnodes
    cases hnodes
  | succ depth ih =>
    obtain ⟨hall, rfl⟩ := nodesFrom_succ_eq_some.1 hnodes
    have hchild (c : Nat) (hc : c ∈ g.childrenOf n) :
        ∃ below, nodesFrom g.childrenOf depth c = some below :=
      Option.isSome_iff_exists.1 (hall c hc)
    have hmem (c : Nat) (hc : c ∈ g.childrenOf n) (x : Nat)
        (hx : x ∈ (nodesFrom g.childrenOf depth c).getD []) : g.IsAtOrBelow x c := by
      obtain ⟨below, hbelow⟩ := hchild c hc
      rw [hbelow] at hx
      exact (mem_nodesFrom hg hbelow).1 hx
    refine List.pairwise_cons.2 ⟨fun y hy => ?_, List.pairwise_flatMap.2 ⟨fun c hc => ?_, ?_⟩⟩
    · obtain ⟨c, hc, hyc⟩ := List.mem_flatMap.1 hy
      exact .inl (.tail' (hmem c hc y hyc) (hg.mem_childrenOf.1 hc))
    · obtain ⟨below, hbelow⟩ := hchild c hc
      rw [hbelow]
      exact ih hbelow
    · refine List.pairwise_iff_forall_sublist.2 fun hcd x hx y hy => ?_
      have hc := hmem _ (hcd.subset (by simp)) x hx
      have hd := hmem _ (hcd.subset (by simp)) y hy
      exact .inr ⟨n, _, _, hcd, hc, hd⟩

/-- Of two items of a list without repetitions, one comes before the other. -/
theorem sublist_or_sublist_of_mem {l : List Nat} (hx : x ∈ l) (hy : y ∈ l) (hne : x ≠ y) :
    [x, y] <+ l ∨ [y, x] <+ l := by
  obtain ⟨front, back, rfl⟩ := List.append_of_mem hx
  obtain hy | hy := List.mem_append.1 hy
  · right
    exact List.cons_sublist_iff.2 ⟨front, _, rfl, hy, List.singleton_sublist.2 List.mem_cons_self⟩
  · left
    have hback : y ∈ back := List.mem_of_ne_of_mem hne.symm hy
    refine (List.Sublist.cons_cons x ?_).trans (List.sublist_append_right front _)
    exact List.singleton_sublist.2 hback

/-- These are the node and nodes below it, in their order. -/
structure IsInOrder (g : LinkTable) (n : Nat) (nodes : List Nat) : Prop where
  head : nodes.head? = some n
  sublist_iff : ∀ x y, [x, y] <+ nodes ↔
    g.IsAtOrBelow x n ∧ g.IsAtOrBelow y n ∧ g.Precedes x y

theorem isInOrder_nodesFrom (hg : g.IsConsistent) (hacyclic : g.IsAcyclic)
    (hnodes : nodesFrom g.childrenOf depth n = some nodes) : g.IsInOrder n nodes where
  head := head?_nodesFrom hnodes
  sublist_iff x y := by
    have hordered {x y : Nat} (hxy : [x, y] <+ nodes) : g.Precedes x y :=
      List.pairwise_iff_forall_sublist.1 (pairwise_nodesFrom hg hnodes) hxy
    rw [← mem_nodesFrom hg hnodes, ← mem_nodesFrom hg hnodes]
    constructor
    · intro hxy
      exact ⟨hxy.subset (by simp), hxy.subset (by simp), hordered hxy⟩
    · rintro ⟨hx, hy, hprecedes⟩
      have hne : x ≠ y := by
        rintro rfl
        exact hprecedes.asymm hg hacyclic hprecedes
      refine (sublist_or_sublist_of_mem hx hy hne).resolve_right fun hyx => ?_
      exact hprecedes.asymm hg hacyclic (hordered hyx)

end LinkTable

open LinkTable

namespace GraphWorld

variable {V N : Type} [DecidableEq N] {w t : GraphWorld V} {n p c : Nat} {nodes : List Nat}

/-! ## Searching by name -/

/-- The node, if its name is the given one. -/
def ifNamed (name : GraphWorld V → Nat → N) (s : N) (node : Nat) :
    Possibly (GraphWorld V) (Option Nat) :=
  read fun w => if name w node = s then some node else none

theorem ends_findSomeM_ifNamed (name : GraphWorld V → Nat → N) (s : N) (nodes : List Nat) :
    Ends (nodes.findSomeM? (ifNamed name s)) w (nodes.find? (name w · = s)) w := by
  induction nodes with
  | nil => exact .pure none w
  | cons node nodes ih =>
    refine .bind (.read _ w) ?_
    by_cases hname : name w node = s
    · rw [if_pos hname, List.find?_cons_of_pos (by simpa using hname)]
      exact .pure (some node) w
    · rw [if_neg hname, List.find?_cons_of_neg (by simpa using hname)]
      exact ih

theorem IsFollowed.ends_search {width depth : Nat} (hw : w.IsFollowed width depth n nodes)
    (name : GraphWorld V → Nat → N) (s : N) :
    Ends (graph.search (ifNamed name s) width depth n) w (nodes.find? (name w · = s)) w := by
  unfold Ends
  rw [hw.searched (ifNamed name s) fun _ => .read keepsGraph_isStep _]
  exact ends_findSomeM_ifNamed name s nodes

/-! ## Following in order -/

/-- From a node, where all levels are followed, these nodes are listed and visited, each of them
once and in their order, and a search by name finds the first one that has the name, and nothing
only where no node at or below the node has it. -/
structure IsWalked (w : GraphWorld V) (n : Nat) (nodes : List Nat) : Prop where
  isInOrder : w.links.IsInOrder n nodes
  isFollowed : ∀ width depth, (∀ p, (w.links.childrenOf p).length < width) →
    (∀ way, w.links.IsWayDown n way → way.length < depth) → w.IsFollowed width depth n nodes
  isFound : ∀ width depth, w.IsFollowed width depth n nodes →
    ∀ {N : Type} [DecidableEq N] (name : GraphWorld V → Nat → N) (s : N),
      Ends (graph.search (ifNamed name s) width depth n) w (nodes.find? (name w · = s)) w ∧
        (nodes.find? (name w · = s) = none ↔ ∀ x, w.links.IsAtOrBelow x n → name w x ≠ s)

theorem isWalked (hconsistent : w.links.IsConsistent) (hacyclic : w.links.IsAcyclic) {levels : Nat}
    (hnodes : nodesFrom w.links.childrenOf levels n = some nodes) : w.IsWalked n nodes where
  isInOrder := isInOrder_nodesFrom hconsistent hacyclic hnodes
  isFollowed width depth hwidth hdepth := by
    have hlisted : nodesFrom w.links.childrenOf depth n = some nodes := by
      obtain ⟨others, hothers⟩ :=
        Option.isSome_iff_exists.1 ((isSome_nodesFrom_iff hconsistent).2 hdepth)
      obtain hle | hle := Nat.le_total depth levels
      · rw [hothers, ← hnodes, nodesFrom_of_le hothers hle]
      · exact nodesFrom_of_le hnodes hle
    exact {
      nodup := nodup_nodesFrom hconsistent hlisted
      mem_iff := fun _ => mem_nodesFrom hconsistent hlisted
      listed := hlisted
      visited := fun _ hvisit => traverse_eq hvisit hwidth hlisted
      searched := fun _ hlook => search_eq hlook hwidth hlisted rfl }
  isFound width depth hfollowed N _ name s := by
    refine ⟨hfollowed.ends_search name s, ?_⟩
    rw [List.find?_eq_none]
    simp only [hfollowed.mem_iff, decide_eq_true_eq, ne_eq]

/-- Whatever was done to new nodes, by their listeners too, the graph comes of what was announced,
and it was consistent all along if and only if no node that had a parent was added, as is so where
listeners leave the graph alone. If this is so, the children of a node come in the order in which
they were added. If no node is below itself either, then from each node everything at and below it
is met once, what is above before what is below, and all that is below a child before a later
child, with no more levels than links were announced. -/
theorem followed_in_order_unless_added_twice {start : GraphWorld V} (hfresh : start.IsFresh)
    {depth : Nat} {ops : List Operation} (hrun : Runs (Operation.act (heard depth)) ops start w) :
    w.links = ofAnnounced w.announced ∧
    ((∀ as, as <+: w.announced → (ofAnnounced as).IsConsistent) ↔ AddsOnlyFree w.announced) ∧
    (depth = 0 → AddsOnlyFree w.announced) ∧
    (AddsOnlyFree w.announced →
      (∀ p, w.links.childrenOf p = standing p w.announced) ∧
      (w.links.IsAcyclic → ∀ n,
        (∀ way, w.links.IsWayDown n way → way.length ≤ w.announced.length) ∧
        ∃ nodes, w.IsWalked n nodes)) := by
  have htold := isTold_of_runs hfresh hrun
  have hlead := htold.leads
  rw [htold.links] at hlead
  refine ⟨htold.links, Leads.isConsistent_iff hlead, ?_, fun hfree => ?_⟩
  · rintro rfl
    exact addsOnlyFree_of_runs hfresh hrun
  · have hleads := htold.leads hfree
    have hconsistent := hleads.isConsistent isConsistent_none
    obtain ⟨within, hwithin, hcard⟩ := hleads.isWithin
    refine ⟨hleads.childrenOf_eq, fun hacyclic n => ?_⟩
    obtain ⟨nodes, hnodes⟩ :=
      exists_nodesFrom hconsistent hwithin (hacyclic n) (Nat.lt_succ_of_le hcard)
    have hsome := Option.isSome_iff_exists.2 ⟨nodes, hnodes⟩
    have hways := (isSome_nodesFrom_iff hconsistent).1 hsome
    exact ⟨fun way hway => Nat.le_of_lt_succ (hways way hway), nodes,
      isWalked hconsistent hacyclic hnodes⟩

/-- Each operation can be run, and its changes are announced. -/
theorem exists_run (hw : w.links.IsConsistent) (op : Operation) :
    ∃ outcome x, op.run w (outcome, x) ∧ Announces (op.announcements w.links) w x ∧
      x.links.IsConsistent := by
  obtain ⟨⟨⟨outcome, x⟩, hx⟩, hall⟩ := op.run_isDone hw
  obtain ⟨-, hmade⟩ := hall _ hx
  have hsequence := op.announcements_isSequence hw
  exact ⟨outcome, x, hx, hmade, hmade.links ▸ hsequence.isConsistent hw⟩

/-- A node is added to its parent once more, and comes after its sibling then, with its child. Of
the two nodes of one name, the upper one is found. -/
theorem lamps_in_order :
    ∃ w : GraphWorld Nat,
      Runs (Operation.act (heard 0)) [.add 1 [some 2, some 3], .add 2 [some 4], .add 1 [some 2]]
          heardGraph w ∧
        w.links.IsAcyclic ∧ nodesFrom w.links.childrenOf 6 1 = some [1, 3, 2, 4] ∧
        Ends (graph.search (ifNamed (fun _ x => if x % 2 = 0 then "lamp" else "") "lamp") 6 6 1) w
          (some 2) w := by
  have hfresh : heardGraph.IsFresh := ⟨rfl, rfl⟩
  obtain ⟨first, t, ht, hmade, hkept⟩ :=
    exists_run (w := heardGraph) isConsistent_none (.add 1 [some 2, some 3])
  obtain ⟨second, u, hu, hmade', hkept'⟩ := exists_run hkept (.add 2 [some 4])
  obtain ⟨third, w, hw, hmade'', hconsistent⟩ := exists_run hkept' (.add 1 [some 2])
  have hrun : Runs (Operation.act (heard 0))
      [.add 1 [some 2, some 3], .add 2 [some 4], .add 1 [some 2]] heardGraph w := by
    rw [act_heard_zero]
    exact .cons ht (.cons hu (.cons hw (.nil w)))
  have hlog : w.announced = [⟨2, .added, 1⟩, ⟨3, .added, 1⟩, ⟨4, .added, 2⟩, ⟨2, .removed, 1⟩,
      ⟨2, .added, 1⟩] := by
    rw [hmade''.announced, hmade'.announced, hmade.announced, hmade'.links, hmade.links]
    rfl
  obtain ⟨-, -, hfree, hordered⟩ := followed_in_order_unless_added_twice hfresh hrun
  obtain ⟨hchildren, hwalked⟩ := hordered (hfree rfl)
  have hupper : ∀ c p, w.links.IsUnder c p → p < c := by
    intro c p hc
    have hmem := hconsistent.mem_childrenOf.2 hc
    rw [hchildren, hlog] at hmem
    by_cases h₁ : p = 1
    · subst h₁
      have hc : c = 3 ∨ c = 2 := by simpa [standing] using hmem
      omega
    · by_cases h₂ : p = 2
      · subst h₂
        have hc : c = 4 := by simpa [standing] using hmem
        omega
      · simp [standing, Ne.symm h₁, Ne.symm h₂] at hmem
  have hacyclic := isAcyclic_of_lt hupper
  obtain ⟨hways, nodes, hnodes⟩ := hwalked hacyclic 1
  rw [hlog] at hways
  have hwidth (p : Nat) : (w.links.childrenOf p).length < 6 := by
    rw [hchildren, hlog]
    exact Nat.lt_succ_of_le (length_standing_le p _)
  have hdepth (way : List Nat) (hway : w.links.IsWayDown 1 way) : way.length < 6 :=
    Nat.lt_succ_of_le (hways way hway)
  have hlisted : nodesFrom w.links.childrenOf 6 1 = some [1, 3, 2, 4] := by
    rw [funext hchildren, hlog]
    simp [nodesFrom, nodesFromAll, standing]
  have hfollowed := hnodes.isFollowed 6 6 hwidth hdepth
  obtain rfl := Option.some.inj (hlisted.symm.trans hfollowed.listed)
  exact ⟨w, hrun, hacyclic, hlisted, (hnodes.isFound 6 6 hfollowed _ "lamp").1⟩

/-! ## A node in two places -/

/-- New nodes, with a listener to whatever is removed. -/
def toldGraph : GraphWorld Nat where
  links _ := .none
  announced := []
  listeners _ := ⟨[(.removed, [7])]⟩

/-- A link was made, and announced. -/
def linked (w : GraphWorld V) (p c : Nat) : GraphWorld V :=
  { w with links := w.links.link p c, announced := w.announced ++ [⟨c, .added, p⟩] }

section Unheard

variable {code : Possibly (GraphWorld V) Unit}

theorem ends_announce_added (hnobody : (w.listeners c).of .added = []) :
    Ends ((graphAmong code).announce c .added p) w ()
      { w with announced := w.announced ++ [⟨c, .added, p⟩] } := by
  refine .bind (.change _ w) (.bind (.read _ _) ?_)
  rw [hnobody]
  exact Ends.pure () _

/-- A node that left its parent, if it had one, is added, and nobody listens to that. -/
theorem addChild_of_leave (hleft : (graphAmong code).leave c w (.ok (), t)) (hne : c ≠ p)
    (hnobody : (t.listeners c).of .added = []) :
    (graphAmong code).addChild p c w (.ok (), t.linked p c) := by
  have hrest : Ends (do
      (graphAmong code).setLinks c { (← (graphAmong code).links c) with parent := some p }
      let l ← (graphAmong code).links p
      (graphAmong code).setLinks p { l with children := l.children ++ [c] }
      (graphAmong code).announce c .added p) t () (t.linked p c) := by
    refine .bind (.read _ t) (.bind (.change _ t) (.bind (.read _ _) ?_))
    exact .bind (.change _ _) (ends_announce_added hnobody)
  unfold Graph.addChild
  rw [if_neg (by simpa using hne)]
  exact ⟨.ok (), t, hleft, (hrest _).2 rfl⟩

theorem addChild_of_free (hfree : (w.links c).parent = none) (hne : c ≠ p)
    (hnobody : (w.listeners c).of .added = []) :
    (graphAmong code).addChild p c w (.ok (), w.linked p c) := by
  refine addChild_of_leave ?_ hne hnobody
  refine read_bind.2 ?_
  rw [hfree]
  rfl

theorem act_add_cons {outcome : Except Fault Unit} {u : GraphWorld V} {rest : List (Option Nat)}
    (hfirst : (graphAmong code).addChild p c w (.ok (), t))
    (hrest : (Operation.add p rest).act code t (outcome, u)) :
    (Operation.add p (some c :: rest)).act code w (outcome, u) :=
  ⟨.ok (), t, ⟨.ok c, w, rfl, hfirst⟩, hrest⟩

theorem act_add_nil : (Operation.add p []).act code w (.ok (), w) := rfl

end Unheard

/-- A node is taken from its parent to be added to another one, and a listener to this adds it to a
third one. It is a child of both then, and listed twice. -/
theorem node_in_two_places :
    ∃ w : GraphWorld Nat,
      Runs (Operation.act (heard 1))
          [.add 1 [some 2, some 3, some 4], .add 2 [some 5], .add 4 [some 5]] toldGraph w ∧
        ¬ AddsOnlyFree w.announced ∧
        nodesFrom w.links.childrenOf 4 1 = some [1, 2, 3, 5, 4, 5] := by
  have hfree (w : GraphWorld Nat) (p c : Nat) (h₁ : (w.links c).parent = none) (h₂ : c ≠ p)
      (h₃ : (w.listeners c).of .added = []) :
      (graphAmong (heard 1)).addChild p c w (.ok (), w.linked p c) := addChild_of_free h₁ h₂ h₃
  let t := ((toldGraph.linked 1 2).linked 1 3).linked 1 4
  have hfirst : (Operation.add 1 [some 2, some 3, some 4]).act (heard 1) toldGraph (.ok (), t) := by
    refine act_add_cons (hfree _ _ _ rfl (by decide) rfl) ?_
    refine act_add_cons (hfree _ _ _ rfl (by decide) rfl) ?_
    exact act_add_cons (hfree _ _ _ rfl (by decide) rfl) act_add_nil
  let u := t.linked 2 5
  have hsecond : (Operation.add 2 [some 5]).act (heard 1) t (.ok (), u) :=
    act_add_cons (hfree _ _ _ rfl (by decide) rfl) act_add_nil
  let v : GraphWorld Nat :=
    { u with links := u.links.unlink 2 5, announced := u.announced ++ [⟨5, .removed, 2⟩] }
  -- The listener adds the node to the third one.
  have hlistener : heard 1 v (.ok (), v.linked 3 5) := by
    refine ⟨1, .ok (), v.linked 3 5, ⟨.ok (), .add 3 [some 5], ?_⟩, rfl⟩
    exact act_add_cons (addChild_of_free rfl (by decide) rfl) act_add_nil
  have hremoved : (bareGraphAmong (heard 1)).removeChild 2 5 u (.ok (), v.linked 3 5) := by
    refine read_bind.2 (change_bind.2 (read_bind.2 (change_bind.2 ?_)))
    refine change_bind.2 (read_bind.2 ⟨.ok (), v.linked 3 5, ?_, rfl⟩)
    exact ⟨.ok (), v.linked 3 5, hlistener, rfl⟩
  have hleft : (graphAmong (heard 1)).leave 5 u (.ok (), v.linked 3 5) :=
    read_bind.2 ⟨.ok (), v.linked 3 5, ⟨.ok (), v.linked 3 5, hremoved, rfl⟩, rfl⟩
  let w := (v.linked 3 5).linked 4 5
  have hthird : (Operation.add 4 [some 5]).act (heard 1) u (.ok (), w) :=
    act_add_cons (addChild_of_leave hleft (by decide) rfl) act_add_nil
  have hrun : Runs (Operation.act (heard 1))
      [.add 1 [some 2, some 3, some 4], .add 2 [some 5], .add 4 [some 5]] toldGraph w :=
    .cons hfirst (.cons hsecond (.cons hthird (.nil w)))
  refine ⟨w, hrun, fun hall => ?_, ?_⟩
  · have hparent := hall [⟨2, .added, 1⟩, ⟨3, .added, 1⟩, ⟨4, .added, 1⟩, ⟨5, .added, 2⟩,
      ⟨5, .removed, 2⟩, ⟨5, .added, 3⟩] 5 4 (List.prefix_refl _)
    exact absurd hparent (by decide)
  · have h₁ : w.links.childrenOf 1 = [2, 3, 4] := rfl
    have h₂ : w.links.childrenOf 2 = [] := rfl
    have h₃ : w.links.childrenOf 3 = [5] := rfl
    have h₄ : w.links.childrenOf 4 = [5] := rfl
    have h₅ : w.links.childrenOf 5 = [] := rfl
    simp [nodesFrom, nodesFromAll, h₁, h₂, h₃, h₄, h₅]

end GraphWorld

end SceneBridge
