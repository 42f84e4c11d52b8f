import SceneBridge.Proofs.GraphWorld
import SceneBridge.Proofs.LinkLoops

/-!
# Following links

What comes of listing, visiting and searching the nodes below a node, and of asking the nodes above
it, in a graph whose links stay as they are meanwhile. All this comes to an end if and only if it
meets no loop, and adding nodes makes loops.
-/

namespace SceneBridge

open Possibly LinkTable

namespace GraphWorld

variable {V α : Type} {w t : GraphWorld V} {n : Nat} {nodes : List Nat} {width depth : Nat}
  {look : Nat → Possibly (GraphWorld V) (Option α)}

/-! ## Below a node -/

/-- Looking on where nothing was found is looking at all nodes in turn. -/
theorem findSomeM_append (first rest : List Nat) :
    (first ++ rest).findSomeM? look = (do
      match ← first.findSomeM? look with
      | some a => return some a
      | none => rest.findSomeM? look) := by
  induction first with
  | nil => simp [List.findSomeM?]
  | cons n first ih =>
    simp only [List.cons_append, List.findSomeM?, bind_assoc, ih]
    refine bind_congr fun found => ?_
    cases found with
    | none => rfl
    | some a => simp

/-- The next child is looked up in the state as it is then. -/
theorem searchChildren_succ (index left : Nat) (t : GraphWorld V) :
    graph.searchChildren look width depth n index (left + 1) t =
      (match (t.links.childrenOf n)[index]? with
        | none => pure none
        | some child => do
          match ← graph.search look width depth child with
          | some a => return some a
          | none => graph.searchChildren look width depth n (index + 1) left) t := by
  rw [Graph.searchChildren]
  funext e
  exact propext read_bind

/-- Looking at the children that are left is looking at all nodes from them on in turn. -/
theorem searchChildren_eq (hlook : ∀ n, Advances KeepsGraph (look n))
    (hsearch : ∀ (t : GraphWorld V) (c : Nat) (below : List Nat), t.links = w.links →
      nodesFrom w.links.childrenOf depth c = some below →
        graph.search look width depth c t = below.findSomeM? look t)
    {index left : Nat} {rest : List Nat}
    (hrest : nodesFromAll w.links.childrenOf depth ((w.links.childrenOf n).drop index) = some rest)
    (hindex : index ≤ (w.links.childrenOf n).length)
    (hleft : (w.links.childrenOf n).length < index + left) (ht : t.links = w.links) :
    graph.searchChildren look width depth n index left t = rest.findSomeM? look t := by
  -- Looking leaves the links alone, so that the index goes on through one list of children.
  induction left generalizing index rest t with
  | zero => omega
  | succ left ih =>
    rw [searchChildren_succ, ht]
    cases hchild : (w.links.childrenOf n)[index]? with
    | none =>
      rw [List.drop_eq_nil_of_le (List.getElem?_eq_none_iff.1 hchild), nodesFromAll] at hrest
      cases hrest
      rfl
    | some child =>
      obtain ⟨hlt, hget⟩ := List.getElem?_eq_some_iff.1 hchild
      rw [List.drop_eq_getElem_cons hlt, hget, nodesFromAll] at hrest
      obtain ⟨below, hbelow, hmore⟩ := Option.bind_eq_some_iff.1 hrest
      obtain ⟨later, hlater, heq⟩ := Option.bind_eq_some_iff.1 hmore
      cases heq
      rw [findSomeM_append]
      refine (Advances.findSomeM keepsGraph_isStep hlook below).bind_congr
        (hsearch t child below ht hbelow) fun found u hu => ?_
      cases found with
      | some a => rfl
      | none => exact ih hlater hlt (by omega) (hu.links.trans ht)

/-- A node and the nodes below it are looked at in the order in which they are listed. -/
theorem search_eq (hlook : ∀ n, Advances KeepsGraph (look n))
    (hwidth : ∀ p, (w.links.childrenOf p).length < width)
    (hnodes : nodesFrom w.links.childrenOf depth n = some nodes) (ht : t.links = w.links) :
    graph.search look width depth n t = nodes.findSomeM? look t := by
  induction depth generalizing n nodes t with
  | zero =>
    rw [nodesFrom] at hnodes
    cases hnodes
  | succ d ih =>
    rw [nodesFrom] at hnodes
    obtain ⟨rest, hrest, rfl⟩ := Option.map_eq_some_iff.1 hnodes
    rw [Graph.search, List.findSomeM?]
    refine (hlook n).bind_congr rfl fun found u hu => ?_
    cases found with
    | some a => rfl
    | none =>
      have hsearch : ∀ (v : GraphWorld V) (c : Nat) (below : List Nat), v.links = w.links →
          nodesFrom w.links.childrenOf d c = some below →
            graph.search look width d c v = below.findSomeM? look v :=
        fun v c below hv hbelow => ih hbelow hv
      refine searchChildren_eq hlook hsearch hrest (Nat.zero_le _) ?_ (hu.links.trans ht)
      rw [Nat.zero_add]
      exact hwidth n

theorem isSome_of_searchChildren
    (hsearch : ∀ (t u : GraphWorld V) (c : Nat), t.links = w.links →
      graph.search look width depth c t (.ok none, u) →
        u.links = w.links ∧ (nodesFrom w.links.childrenOf depth c).isSome)
    {index left : Nat} {u : GraphWorld V} (ht : t.links = w.links)
    (h : graph.searchChildren look width depth n index left t (.ok none, u)) :
    u.links = w.links ∧
      ∀ c ∈ (w.links.childrenOf n).drop index, (nodesFrom w.links.childrenOf depth c).isSome := by
  induction left generalizing index t with
  | zero =>
    rw [Graph.searchChildren] at h
    cases h
  | succ left ih =>
    rw [searchChildren_succ, ht] at h
    cases hchild : (w.links.childrenOf n)[index]? with
    | none =>
      rw [hchild] at h
      obtain ⟨-, rfl⟩ := Prod.mk.inj h
      refine ⟨ht, fun c hc => ?_⟩
      rw [List.drop_eq_nil_of_le (List.getElem?_eq_none_iff.1 hchild)] at hc
      cases hc
    | some child =>
      rw [hchild] at h
      obtain ⟨found, v, hfirst, hrest⟩ := bind_ok h
      cases found with
      | some a => cases hrest
      | none =>
        obtain ⟨hv, hsome⟩ := hsearch t v child ht hfirst
        obtain ⟨hu, hall⟩ := ih hv hrest
        obtain ⟨hlt, hget⟩ := List.getElem?_eq_some_iff.1 hchild
        refine ⟨hu, ?_⟩
        rw [List.drop_eq_getElem_cons hlt, hget]
        exact List.forall_mem_cons.2 ⟨hsome, hall⟩

/-- A search finds nothing only where all nodes below can be listed. -/
theorem isSome_of_search (hlook : ∀ n, Advances KeepsGraph (look n)) {u : GraphWorld V}
    (ht : t.links = w.links) (h : graph.search look width depth n t (.ok none, u)) :
    u.links = w.links ∧ (nodesFrom w.links.childrenOf depth n).isSome := by
  induction depth generalizing n t u with
  | zero =>
    rw [Graph.search] at h
    cases h
  | succ d ih =>
    rw [Graph.search] at h
    obtain ⟨found, v, hfirst, hrest⟩ := bind_ok h
    cases found with
    | some a => cases hrest
    | none =>
      have hv := (hlook n _ _ _ hfirst).links.trans ht
      obtain ⟨hu, hall⟩ := isSome_of_searchChildren (fun t u c => ih) hv hrest
      exact ⟨hu, Option.isSome_iff_exists.2 ⟨_, nodesFrom_succ_eq_some.2 ⟨hall, rfl⟩⟩⟩

theorem findSomeM_visit (visit : Nat → Possibly (GraphWorld V) Unit) (nodes : List Nat) :
    (do let _ ← nodes.findSomeM? fun n => do visit n; return (none : Option Empty)) =
      nodes.forM visit := by
  induction nodes with
  | nil => exact pure_bind _ _
  | cons n nodes ih =>
    have hstep : (n :: nodes).forM visit = (do visit n; nodes.forM visit) := rfl
    rw [hstep, ← ih]
    simp only [List.findSomeM?, bind_assoc, pure_bind]

/-- A node and the nodes below it are visited in the order in which they are listed. -/
theorem traverse_eq {visit : Nat → Possibly (GraphWorld V) Unit}
    (hvisit : ∀ n, Advances KeepsGraph (visit n))
    (hwidth : ∀ p, (w.links.childrenOf p).length < width)
    (hnodes : nodesFrom w.links.childrenOf depth n = some nodes) :
    graph.traverse visit width depth n w = nodes.forM visit w := by
  have hlook (n : Nat) : Advances KeepsGraph (do visit n; return (none : Option Empty)) :=
    .bind keepsGraph_isStep (hvisit n) fun _ => .pure keepsGraph_isStep none
  rw [← findSomeM_visit]
  refine (Advances.findSomeM keepsGraph_isStep hlook nodes).bind_congr ?_ fun _ _ _ => rfl
  exact search_eq hlook hwidth hnodes rfl

/-! ## Above a node -/

/-- What a node comes to among the nodes above it, of which at most `depth` are asked. -/
def placed (own : Nat → Possibly (GraphWorld V) α) (under : α → α → Possibly (GraphWorld V) α) :
    (depth : Nat) → Nat → Possibly (GraphWorld V) α
  | 0, _ => throwThe Fault .tooDeep
  | d + 1, n => graph.underParent (own n) (placed own under d) under n

/-- The computation comes to an end and leaves the graph alone. -/
def IsHarmless (x : Possibly (GraphWorld V) α) : Prop :=
  ∀ s, Ensures x s fun e => KeepsGraph s e.2

/-- The fault is one of what a node comes to by itself, or of putting that under something. -/
def IsFaultOf (own : Nat → Possibly (GraphWorld V) α) (under : α → α → Possibly (GraphWorld V) α)
    (fault : Fault) : Prop :=
  (∃ n s t, own n s (.error fault, t)) ∨ ∃ a b s t, under a b s (.error fault, t)

variable {own : Nat → Possibly (GraphWorld V) α} {under : α → α → Possibly (GraphWorld V) α}

/-- A node without a loop above it comes to an end, where more nodes are asked than there are nodes
with parents, and fails only where a node or putting one under another does. -/
theorem placed_ensures {within : Finset Nat} (hown : ∀ n, IsHarmless (own n))
    (hunder : ∀ a b, IsHarmless (under a b)) (hwithin : w.links.IsWithin within)
    (hloop : ¬ w.links.LeadsToLoop n) (hdepth : within.card < depth) :
    Ensures (placed own under depth n) w fun e =>
      KeepsGraph w e.2 ∧ ∀ fault, e.1 = .error fault → IsFaultOf own under fault := by
  classical
  -- Each parent has less above it, and so the induction is on the levels that are left.
  suffices habove : ∀ depth n t, ¬ w.links.LeadsToLoop n → t.links = w.links →
      (within.filter (w.links.IsAtOrBelow n)).card < depth →
      Ensures (placed own under depth n) t fun e =>
        KeepsGraph t e.2 ∧ ∀ fault, e.1 = .error fault → IsFaultOf own under fault from
    habove depth n w hloop rfl ((Finset.card_filter_le _ _).trans_lt hdepth)
  intro depth
  induction depth with
  | zero =>
    intro n t _ _ hcard
    exact absurd hcard (Nat.not_lt_zero _)
  | succ d ih =>
    intro n t hloop ht hcard
    have hfirst : Ensures (own n) t fun e =>
        KeepsGraph t e.2 ∧ ∀ fault, e.1 = .error fault → IsFaultOf own under fault := by
      refine ⟨(hown n t).1, fun e he => ⟨(hown n t).2 e he, ?_⟩⟩
      rintro fault hfault
      exact .inl ⟨n, t, e.2, hfault ▸ he⟩
    refine .bind hfirst (fun a u hu => ?_) fun _ _ h => h
    refine .of_ends (.read _ u) ?_
    have hlinks := hu.1.links.trans ht
    cases hparent : (u.links n).parent with
    | none => exact .pure ⟨hu.1, fun _ h => nomatch h⟩
    | some p =>
      have hunderp : w.links.IsUnder n p := by rwa [hlinks] at hparent
      have hnot : ¬ w.links.LeadsToLoop p := by
        rintro ⟨q, hq, hback⟩
        exact hloop ⟨q, .head hunderp hq, hback⟩
      have hfewer := hwithin.card_above_lt hunderp hloop
      refine .bind (ih p u hnot hlinks (by omega)) (fun b v hv => ?_) fun fault v h =>
        ⟨keepsGraph_isStep.trans hu.1 h.1, h.2⟩
      have hlast := hunder b a v
      refine ⟨hlast.1, fun e he => ⟨?_, fun fault hfault => .inr ⟨b, a, v, e.2, hfault ▸ he⟩⟩⟩
      exact keepsGraph_isStep.trans hu.1 (keepsGraph_isStep.trans hv.1 (hlast.2 e he))

/-- A node with a loop above it comes to nothing, however many nodes above it are asked. -/
theorem not_placed (hown : ∀ n, Advances KeepsGraph (own n)) 
    (hloop : w.links.LeadsToLoop n) (depth : Nat) {a : α} {u : GraphWorld V} (ht : t.links = w.links) :
    ¬ placed own under depth n t (.ok a, u) := by
  intro h
  induction depth generalizing n t a u with
  | zero => cases h
  | succ d ih =>
    -- The parent has the loop above it too, and would have to come to something first.
    obtain ⟨p, hp, hparent⟩ := hloop.parent
    obtain ⟨b, v, hb, hrest⟩ := bind_ok h
    have hv := (hown n _ _ _ hb).links.trans ht
    replace hrest := read_bind.1 hrest
    rw [hv, hp] at hrest
    obtain ⟨c, x, hc, -⟩ := bind_ok hrest
    exact ih hparent hv hc

/-! ## Loops -/

/-- All nodes at and below a node, each of them once, are listed and visited, and looked at when
something is searched. -/
structure IsFollowed (w : GraphWorld V) (width depth n : Nat) (nodes : List Nat) : Prop where
  nodup : nodes.Nodup
  mem_iff : ∀ x, x ∈ nodes ↔ w.links.IsAtOrBelow x n
  listed : nodesFrom w.links.childrenOf depth n = some nodes
  visited : ∀ visit : Nat → Possibly (GraphWorld V) Unit, (∀ n, Advances KeepsGraph (visit n)) →
    graph.traverse visit width depth n w = nodes.forM visit w
  searched : ∀ {α : Type} (look : Nat → Possibly (GraphWorld V) (Option α)),
    (∀ n, Advances KeepsGraph (look n)) →
      graph.search look width depth n w = nodes.findSomeM? look w

/-- However far the links are followed, the nodes below a node are not listed, a visit to all of
them does not return, and no search returns without having found something. -/
structure IsEndless (w : GraphWorld V) (n : Nat) : Prop where
  listed : ∀ depth, nodesFrom w.links.childrenOf depth n = none
  visited : ∀ visit : Nat → Possibly (GraphWorld V) Unit, (∀ n, Advances KeepsGraph (visit n)) →
    ∀ width depth t, ¬ graph.traverse visit width depth n w (.ok (), t)
  searched : ∀ {α : Type} (look : Nat → Possibly (GraphWorld V) (Option α)),
    (∀ n, Advances KeepsGraph (look n)) →
      ∀ width depth t, ¬ graph.search look width depth n w (.ok none, t)

theorem isFollowed {within : Finset Nat} (hw : w.links.IsConsistent)
    (hwithin : w.links.IsWithin within) (hloop : ¬ w.links.IsBelow n n)
    (hwidth : within.card < width) (hdepth : within.card < depth) :
    ∃ nodes, w.IsFollowed width depth n nodes := by
  obtain ⟨nodes, hnodes⟩ := exists_nodesFrom hw hwithin hloop hdepth
  have hchildren (p : Nat) : (w.links.childrenOf p).length < width :=
    (hwithin.length_children_le hw p).trans_lt hwidth
  exact ⟨nodes, {
    nodup := nodup_nodesFrom hw hnodes
    mem_iff := fun _ => mem_nodesFrom hw hnodes
    listed := hnodes
    visited := fun _ hvisit => traverse_eq hvisit hchildren hnodes
    searched := fun _ hlook => search_eq hlook hchildren hnodes rfl }⟩

theorem isEndless (hw : w.links.IsConsistent) (hloop : w.links.IsBelow n n) : w.IsEndless n := by
  have hsearched {α : Type} (look : Nat → Possibly (GraphWorld V) (Option α))
      (hlook : ∀ n, Advances KeepsGraph (look n)) (width depth : Nat) (t : GraphWorld V) :
      ¬ graph.search look width depth n w (.ok none, t) := by
    intro h
    have hsome := (isSome_of_search hlook rfl h).2
    rw [hloop.nodesFrom_eq_none hw] at hsome
    cases hsome
  refine ⟨hloop.nodesFrom_eq_none hw, fun visit hvisit width depth t h => ?_, hsearched⟩
  obtain ⟨found, u, hsearch, -⟩ := bind_ok h
  cases found with
  | none =>
    refine hsearched _ (fun n => ?_) width depth u hsearch
    exact .bind keepsGraph_isStep (hvisit n) fun _ => .pure keepsGraph_isStep none
  | some a => exact a.elim

/-- Whatever was done to new nodes, the graph was acyclic all along if and only if no node was ever
added to a node below it. Following the links down from a node comes to no end if the node is below
itself, and otherwise meets all nodes below it, in one order. Following them up comes to no end if
that meets a loop, and otherwise ends. -/
theorem acyclic_unless_added_below {start : GraphWorld V} (hfresh : start.IsFresh)
    {ops : List Operation} (hrun : Runs Operation.run ops start w) :
    w.links = w.announced.foldl after (fun _ => .none) ∧
    ((∀ as, as <+: w.announced → IsAcyclic (as.foldl after fun _ => .none)) ↔
      ∀ as c p, as ++ [⟨c, .added, p⟩] <+: w.announced →
        ¬ IsBelow (as.foldl after fun _ => .none) p c) ∧
    (∀ n, w.links.IsBelow n n → w.IsEndless n) ∧
    (∀ n, ¬ w.links.IsBelow n n → ∀ width depth, w.announced.length < width →
      w.announced.length < depth → ∃ nodes, w.IsFollowed width depth n nodes) ∧
    ∀ {α : Type} (own : Nat → Possibly (GraphWorld V) α) (under : α → α → Possibly (GraphWorld V) α),
      (∀ n, IsHarmless (own n)) → (∀ a b, IsHarmless (under a b)) → ∀ n,
        (w.links.LeadsToLoop n → ∀ depth a t, ¬ placed own under depth n w (.ok a, t)) ∧
        (¬ w.links.LeadsToLoop n → ∀ depth, w.announced.length < depth →
          Ensures (placed own under depth n) w fun e =>
            KeepsGraph w e.2 ∧ ∀ fault, e.1 = .error fault → IsFaultOf own under fault) := by
  have hstart : IsAnnounced start start := by
    refine ⟨hfresh.links ▸ isConsistent_none, ?_⟩
    rw [hfresh.announced]
    exact .nil _
  obtain ⟨hconsistent, hleads⟩ := hstart.run hrun
  rw [hfresh.links] at hleads
  obtain ⟨within, hwithin, hcard⟩ := hleads.isWithin
  refine ⟨hleads.eq_foldl, hleads.isAcyclic_iff isAcyclic_none,
    fun n hloop => isEndless hconsistent hloop, ?_, ?_⟩
  · intro n hloop width depth hwidth hdepth
    exact isFollowed hconsistent hwithin hloop (hcard.trans_lt hwidth) (hcard.trans_lt hdepth)
  · intro α own under hown hunder n
    constructor
    · intro hloop depth a t
      exact not_placed (fun n s _ u h => (hown n s).2 _ h) hloop depth rfl
    · intro hloop depth hdepth
      exact placed_ensures hown hunder hwithin hloop (hcard.trans_lt hdepth)

/-- Two nodes are added to each other: the second time, the parent is below the child already. -/
theorem two_nodes_in_loop :
    ∃ w : GraphWorld Nat,
      Runs Operation.run [.add 1 [some 2], .add 2 [some 1]] heardGraph w ∧
        w.announced = [⟨2, .added, 1⟩, ⟨1, .added, 2⟩] ∧ w.links.IsBelow 1 1 ∧
        ¬ w.links.IsAcyclic ∧ w.IsEndless 1 ∧
        ∀ depth a t, ¬ placed (fun n => pure n) (fun a b => pure (a + b)) depth 2 w (.ok a, t) := by
  have hconsistent : heardGraph.links.IsConsistent := isConsistent_none
  obtain ⟨⟨⟨first, u⟩, hu⟩, hall⟩ := Operation.run_isDone hconsistent (.add 1 [some 2])
  obtain ⟨-, hlinks, hannounced⟩ := hall _ hu
  have hconsistent' : u.links.IsConsistent :=
    hlinks ▸ ((Operation.add 1 [some 2]).announcements_isSequence hconsistent).isConsistent hconsistent
  obtain ⟨⟨⟨second, w⟩, hw⟩, hall'⟩ := Operation.run_isDone hconsistent' (.add 2 [some 1])
  obtain ⟨-, hlinks', hannounced'⟩ := hall' _ hw
  rw [hlinks] at hlinks' hannounced'
  rw [hannounced] at hannounced'
  have hrun : Runs Operation.run [.add 1 [some 2], .add 2 [some 1]] heardGraph w :=
    .cons hu (.cons hw (.nil w))
  have hup : w.links.IsUnder 1 2 := by
    rw [hlinks']
    rfl
  have hdown : w.links.IsUnder 2 1 := by
    rw [hlinks']
    rfl
  have hloop : w.links.IsBelow 1 1 := .tail (.single hup) hdown
  obtain ⟨-, -, hendless, -, habove⟩ := acyclic_unless_added_below ⟨rfl, rfl⟩ hrun
  have hharmless (n : Nat) : IsHarmless (pure n : Possibly (GraphWorld Nat) Nat) :=
    fun s => .pure (keepsGraph_isStep.refl s)
  refine ⟨w, hrun, hannounced', hloop, fun h => h 1 hloop, hendless 1 hloop, ?_⟩
  exact (habove _ _ hharmless (fun a b => hharmless (a + b)) 2).1 ⟨1, .single hdown, hloop⟩

end GraphWorld

end SceneBridge
