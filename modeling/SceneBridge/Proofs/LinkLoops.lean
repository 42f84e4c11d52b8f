import Mathlib.Data.Finset.Card
import Mathlib.Logic.Relation
import SceneBridge.Proofs.LinkChanges

/-!
# Nodes below themselves

Which nodes of a graph are below which, and when a node is below itself. A link that is broken
closes no loop; a link that is made closes one if the parent is below the child already. The nodes
below a node can be listed if and only if it is not below itself.
-/

namespace SceneBridge

open Relation

namespace LinkTable

variable {g h : LinkTable} {n p q c x y : Nat}

/-! ## Below and above -/

/-- The first node has the second one for its parent. -/
def IsUnder (g : LinkTable) (c p : Nat) : Prop :=
  (g c).parent = some p

/-- The first node is under the second one, or under a node below it. -/
def IsBelow (g : LinkTable) : Nat → Nat → Prop :=
  TransGen g.IsUnder

def IsAtOrBelow (g : LinkTable) : Nat → Nat → Prop :=
  ReflTransGen g.IsUnder

/-- No node is below itself. -/
def IsAcyclic (g : LinkTable) : Prop :=
  ∀ n, ¬ g.IsBelow n n

/-- A node at or above the node is below itself. -/
def LeadsToLoop (g : LinkTable) (n : Nat) : Prop :=
  ∃ p, g.IsAtOrBelow n p ∧ g.IsBelow p p

theorem IsUnder.unique (hp : g.IsUnder c p) (hq : g.IsUnder c q) : p = q :=
  Option.some.inj (hp.symm.trans hq)

theorem isAtOrBelow_iff : g.IsAtOrBelow x n ↔ x = n ∨ ∃ c, g.IsUnder c n ∧ g.IsAtOrBelow x c := by
  refine (ReflTransGen.cases_tail_iff _ x n).trans (or_congr eq_comm ?_)
  exact exists_congr fun c => and_comm

/-- The parent of a node that is below itself is below itself. -/
theorem IsBelow.parent (hloop : g.IsBelow c c) (hc : g.IsUnder c n) : g.IsBelow n n := by
  obtain ⟨p, hp, hback⟩ := TransGen.head'_iff.1 hloop
  obtain rfl := hc.unique hp
  exact .tail' hback hc

/-- A node that is below itself has a child that is. -/
theorem IsBelow.child (hloop : g.IsBelow n n) : ∃ c, g.IsUnder c n ∧ g.IsBelow c c := by
  obtain ⟨c, hback, hc⟩ := TransGen.tail'_iff.1 hloop
  exact ⟨c, hc, .head' hc hback⟩

/-- A node with a loop above it has a parent with that loop above it. -/
theorem LeadsToLoop.parent (hn : g.LeadsToLoop n) : ∃ p, g.IsUnder n p ∧ g.LeadsToLoop p := by
  obtain ⟨q, hq, hloop⟩ := hn
  obtain rfl | ⟨p, hp, hrest⟩ := ReflTransGen.cases_head hq
  · obtain ⟨p, hp, -⟩ := TransGen.head'_iff.1 hloop
    exact ⟨p, hp, p, .refl, hloop.parent hp⟩
  · exact ⟨p, hp, q, hrest, hloop⟩

/-- What is below two different children of a node makes the node be below itself. -/
theorem isBelow_of_two_children (hp : g.IsUnder p n) (hq : g.IsUnder q n) (hne : p ≠ q)
    (hxp : g.IsAtOrBelow x p) (hxq : g.IsAtOrBelow x q) : g.IsBelow n n := by
  -- Of two nodes above a node, one is above the other.
  have hchain : ∀ {a b : Nat}, g.IsUnder a n → g.IsUnder b n → a ≠ b → g.IsAtOrBelow a b →
      g.IsBelow n n := by
    intro a b ha hb hab hle
    obtain rfl | ⟨c, hc, hrest⟩ := ReflTransGen.cases_head hle
    · exact absurd rfl hab
    · obtain rfl := ha.unique hc
      exact .tail' hrest hb
  have hright : Relator.RightUnique g.IsUnder := fun _ _ _ => IsUnder.unique
  obtain hle | hle := ReflTransGen.total_of_right_unique hright hxp hxq
  · exact hchain hp hq hne hle
  · exact hchain hq hp hne.symm hle

/-! ## Links made and broken -/

theorem isUnder_unlink : (g.unlink p c).IsUnder x y ↔ x ≠ c ∧ g.IsUnder x y := by
  by_cases hx : x = c
  · simp [IsUnder, unlink, hx]
  · simp [IsUnder, unlink, hx]

theorem isUnder_link : (g.link p c).IsUnder x y ↔ if x = c then p = y else g.IsUnder x y := by
  by_cases hx : x = c
  · simp [IsUnder, link, hx]
  · simp [IsUnder, link, hx]

theorem isAcyclic_none : IsAcyclic fun _ => .none := by
  intro n hloop
  obtain ⟨c, hc, -⟩ := hloop.child
  cases hc

theorem IsAcyclic.unlink (hg : g.IsAcyclic) : (g.unlink p c).IsAcyclic := by
  intro n hloop
  exact hg n (TransGen.mono (fun _ _ h => (isUnder_unlink.1 h).2) _ _ hloop)

theorem IsBelow.link (hc : (g c).parent = none) (hx : g.IsBelow x y) : (g.link p c).IsBelow x y := by
  refine TransGen.mono (fun a b h => isUnder_link.2 ?_) _ _ hx
  have hne : a ≠ c := by
    rintro rfl
    cases hc.symm.trans h
  rwa [if_neg hne]

/-- Whatever is below another node with the new link was below it, or is so by the link. -/
theorem IsBelow.of_link (hx : (g.link p c).IsBelow x y) :
    g.IsBelow x y ∨ g.IsAtOrBelow x c ∧ g.IsAtOrBelow p y := by
  have hstep {a b : Nat} (hab : (g.link p c).IsUnder a b) : g.IsUnder a b ∨ a = c ∧ p = b := by
    rw [isUnder_link] at hab
    split at hab
    · exact .inr ⟨‹_›, hab⟩
    · exact .inl hab
  -- The induction is on the way up; the last use of the new link decides.
  induction hx with
  | single hab =>
    obtain hold | ⟨rfl, rfl⟩ := hstep hab
    · exact .inl (.single hold)
    · exact .inr ⟨.refl, .refl⟩
  | tail _ hab ih =>
    obtain hold | ⟨rfl, rfl⟩ := hstep hab
    · obtain hbelow | ⟨hxc, hpy⟩ := ih
      · exact .inl (.tail hbelow hold)
      · exact .inr ⟨hxc, hpy.tail hold⟩
    · obtain hbelow | ⟨hxc, -⟩ := ih
      · exact .inr ⟨hbelow.to_reflTransGen, .refl⟩
      · exact .inr ⟨hxc, .refl⟩

/-- A link that is made closes a loop just where the parent is below the child already. -/
theorem isAcyclic_link_iff (hc : (g c).parent = none) (hne : c ≠ p) :
    (g.link p c).IsAcyclic ↔ g.IsAcyclic ∧ ¬ g.IsBelow p c := by
  constructor
  · intro hacyclic
    refine ⟨fun n hloop => hacyclic n (hloop.link hc), fun hbelow => hacyclic p ?_⟩
    exact .tail (hbelow.link hc) (isUnder_link.2 (by rw [if_pos rfl]))
  · rintro ⟨hacyclic, hnot⟩ n hloop
    -- A new loop runs through the link, so that the rest of it leads from the parent to the child.
    obtain hold | ⟨hnc, hpn⟩ := hloop.of_link
    · exact hacyclic n hold
    · obtain rfl | hbelow := reflTransGen_iff_eq_or_transGen.1 (hpn.trans hnc)
      · exact hne rfl
      · exact hnot hbelow

theorem Leads.eq_foldl {as : List Announcement} (hlead : Leads g as h) : h = as.foldl after g := by
  induction hlead with
  | nil g => rfl
  | cons _ _ ih => exact ih

theorem isAcyclic_after_iff {a : Announcement} (ha : g.IsProper a) (hg : g.IsAcyclic) :
    (g.after a).IsAcyclic ↔ ∀ c p, a = ⟨c, .added, p⟩ → ¬ g.IsBelow p c := by
  obtain ⟨node, change, parent⟩ := a
  cases change with
  | added =>
    refine (isAcyclic_link_iff ha.1 ha.2).trans ⟨?_, fun hall => ⟨hg, hall _ _ rfl⟩⟩
    rintro ⟨-, hnot⟩ c p heq
    cases heq
    exact hnot
  | removed =>
    refine ⟨?_, fun _ => hg.unlink⟩
    rintro - c p heq
    cases heq

/-- A graph that comes of an acyclic one is acyclic all along just where no node is added to a node
that is below it already. -/
theorem Leads.isAcyclic_iff {as : List Announcement} (hlead : Leads g as h) (hg : g.IsAcyclic) :
    (∀ bs, bs <+: as → IsAcyclic (bs.foldl after g)) ↔
      ∀ bs c p, bs ++ [⟨c, .added, p⟩] <+: as → ¬ IsBelow (bs.foldl after g) p c := by
  induction hlead with
  | nil g =>
    constructor
    · intro _ bs c p hprefix
      have hempty := List.prefix_nil.1 hprefix
      simp at hempty
    · intro _ bs hprefix
      rw [List.prefix_nil.1 hprefix]
      exact hg
  | @cons g h a as ha hrest ih =>
    have hkept := isAcyclic_after_iff ha hg
    constructor
    · intro hall bs c p hprefix
      have hfirst : (g.after a).IsAcyclic := hall [a] ⟨as, rfl⟩
      cases bs with
      | nil =>
        obtain ⟨rfl, -⟩ := List.cons_prefix_cons.1 hprefix
        exact hkept.1 hfirst c p rfl
      | cons b bs =>
        obtain ⟨rfl, htail⟩ := List.cons_prefix_cons.1 hprefix
        refine (ih hfirst).1 (fun bs' hbs' => ?_) bs c p htail
        exact hall (b :: bs') (List.cons_prefix_cons.2 ⟨rfl, hbs'⟩)
    · intro hall bs hprefix
      cases bs with
      | nil => exact hg
      | cons b bs =>
        obtain ⟨rfl, htail⟩ := List.cons_prefix_cons.1 hprefix
        have hfirst : (g.after b).IsAcyclic := by
          refine hkept.2 ?_
          rintro c p rfl
          exact hall [] c p ⟨as, rfl⟩
        refine (ih hfirst).2 (fun bs' c p hbs' => ?_) bs htail
        exact hall (b :: bs') c p (List.cons_prefix_cons.2 ⟨rfl, hbs'⟩)

/-! ## The nodes with parents -/

/-- Only these nodes have parents. -/
def IsWithin (g : LinkTable) (nodes : Finset Nat) : Prop :=
  ∀ c p, g.IsUnder c p → c ∈ nodes

theorem Leads.mem_of_isUnder {as : List Announcement} (hlead : Leads g as h)
    (hc : h.IsUnder c p) : (∃ q, g.IsUnder c q) ∨ c ∈ as.map Announcement.node := by
  induction hlead with
  | nil g => exact .inl ⟨p, hc⟩
  | @cons g h a as _ _ ih =>
    obtain ⟨q, hq⟩ | hmem := ih hc
    · obtain ⟨node, change, parent⟩ := a
      by_cases hnode : c = node
      · exact .inr (hnode ▸ List.mem_cons_self)
      cases change with
      | added => exact .inl ⟨q, by simpa [after, isUnder_link, hnode] using hq⟩
      | removed => exact .inl ⟨q, by simpa [after, isUnder_unlink, hnode] using hq⟩
    · exact .inr (List.mem_cons_of_mem _ hmem)

/-- There are no more nodes with parents than links were made and broken. -/
theorem Leads.isWithin {as : List Announcement} (hlead : Leads (fun _ => .none) as g) :
    ∃ nodes, g.IsWithin nodes ∧ nodes.card ≤ as.length := by
  refine ⟨(as.map Announcement.node).toFinset, fun c p hc => ?_, ?_⟩
  · obtain ⟨q, hq⟩ | hmem := hlead.mem_of_isUnder hc
    · cases hq
    · exact List.mem_toFinset.2 hmem
  · exact (List.toFinset_card_le _).trans (List.length_map _).le

theorem IsWithin.length_children_le {nodes : Finset Nat} (hnodes : g.IsWithin nodes)
    (hg : g.IsConsistent) (p : Nat) : (g p).children.length ≤ nodes.card := by
  rw [← List.toFinset_card_of_nodup (hg.nodup p)]
  refine Finset.card_le_card fun c hc => hnodes c p ?_
  exact (hg.mem_children_iff p c).1 (List.mem_toFinset.1 hc)

open scoped Classical in
/-- Fewer nodes are below a child than below its parent. -/
theorem IsWithin.card_below_lt {nodes : Finset Nat} (hnodes : g.IsWithin nodes)
    (hc : g.IsUnder c n) (hloop : ¬ g.IsBelow c c) :
    (nodes.filter (g.IsBelow · c)).card < (nodes.filter (g.IsBelow · n)).card := by
  refine Finset.card_lt_card (Finset.ssubset_iff_subset_ne.2 ⟨?_, fun heq => hloop ?_⟩)
  · exact Finset.monotone_filter_right _ fun x _ hx => .tail hx hc
  · have hmem : c ∈ nodes.filter (g.IsBelow · n) :=
      Finset.mem_filter.2 ⟨hnodes c n hc, .single hc⟩
    rw [← heq] at hmem
    exact (Finset.mem_filter.1 hmem).2

open scoped Classical in
/-- Fewer nodes with parents are met from the parent of a node on than from the node on. -/
theorem IsWithin.card_above_lt {nodes : Finset Nat} (hnodes : g.IsWithin nodes)
    (hn : g.IsUnder n p) (hloop : ¬ g.LeadsToLoop n) :
    (nodes.filter (g.IsAtOrBelow p)).card < (nodes.filter (g.IsAtOrBelow n)).card := by
  refine Finset.card_lt_card (Finset.ssubset_iff_subset_ne.2 ⟨?_, fun heq => hloop ?_⟩)
  · exact Finset.monotone_filter_right _ fun x _ hx => .head hn hx
  · have hmem : n ∈ nodes.filter (g.IsAtOrBelow n) :=
      Finset.mem_filter.2 ⟨hnodes n p hn, .refl⟩
    rw [← heq] at hmem
    exact ⟨n, .refl, .head' hn (Finset.mem_filter.1 hmem).2⟩

/-! ## Listing -/

/-- The children of a node. -/
def childrenOf (g : LinkTable) (n : Nat) : List Nat :=
  (g n).children

theorem IsConsistent.mem_childrenOf (hg : g.IsConsistent) : c ∈ g.childrenOf n ↔ g.IsUnder c n :=
  hg.mem_children_iff n c

variable {children : Nat → List Nat} {depth : Nat} {nodes : List Nat}

theorem nodesFromAll_eq_some (ns : List Nat) : nodesFromAll children depth ns = some nodes ↔
    (∀ n ∈ ns, (nodesFrom children depth n).isSome) ∧
      nodes = ns.flatMap fun n => (nodesFrom children depth n).getD [] := by
  induction ns generalizing nodes with
  | nil =>
    rw [nodesFromAll, eq_comm]
    simp
  | cons n ns ih =>
    rw [nodesFromAll, List.forall_mem_cons, List.flatMap_cons]
    cases nodesFrom children depth n with
    | none => simp
    | some first =>
      simp only [Option.bind_eq_bind, Option.bind_some, Option.bind_eq_some_iff, ih, Option.pure_def,
        Option.some.injEq, Option.isSome_some, true_and, Option.getD_some]
      constructor
      · rintro ⟨_, ⟨hall, rfl⟩, rfl⟩
        exact ⟨hall, rfl⟩
      · rintro ⟨hall, rfl⟩
        exact ⟨_, ⟨hall, rfl⟩, rfl⟩

theorem nodesFrom_succ_eq_some : nodesFrom children (depth + 1) n = some nodes ↔
    (∀ c ∈ children n, (nodesFrom children depth c).isSome) ∧
      nodes = n :: (children n).flatMap fun c => (nodesFrom children depth c).getD [] := by
  rw [nodesFrom, Option.map_eq_some_iff]
  constructor
  · rintro ⟨rest, hrest, rfl⟩
    obtain ⟨hall, rfl⟩ := (nodesFromAll_eq_some _).1 hrest
    exact ⟨hall, rfl⟩
  · rintro ⟨hall, rfl⟩
    exact ⟨_, (nodesFromAll_eq_some _).2 ⟨hall, rfl⟩, rfl⟩

/-- Listing lists what is at or below the node. -/
theorem mem_nodesFrom (hg : g.IsConsistent) (hnodes : nodesFrom g.childrenOf depth n = some nodes) :
    x ∈ nodes ↔ g.IsAtOrBelow x n := by
  induction depth generalizing n nodes with
  | zero =>
    rw [nodesFrom] at hnodes
    cases hnodes
  | succ d ih =>
    obtain ⟨hall, rfl⟩ := nodesFrom_succ_eq_some.1 hnodes
    rw [List.mem_cons, isAtOrBelow_iff, List.mem_flatMap]
    refine or_congr_right (exists_congr fun c => ?_)
    rw [hg.mem_childrenOf]
    refine and_congr_right fun hc => ?_
    obtain ⟨below, hbelow⟩ := Option.isSome_iff_exists.1 (hall c (hg.mem_childrenOf.2 hc))
    rw [hbelow]
    exact ih hbelow

/-- A node that is below itself is not listed, however many levels are followed. -/
theorem IsBelow.nodesFrom_eq_none (hg : g.IsConsistent) (hloop : g.IsBelow n n) (depth : Nat) :
    nodesFrom g.childrenOf depth n = none := by
  induction depth generalizing n with
  | zero => rw [nodesFrom]
  | succ d ih =>
    -- One of the children is on the loop as well.
    obtain ⟨c, hc, hchild⟩ := hloop.child
    refine Option.eq_none_iff_forall_ne_some.2 fun nodes hnodes => ?_
    have hsome := (nodesFrom_succ_eq_some.1 hnodes).1 c (hg.mem_childrenOf.2 hc)
    rw [ih hchild] at hsome
    cases hsome

/-- Every node is listed once. -/
theorem nodup_nodesFrom (hg : g.IsConsistent) (hnodes : nodesFrom g.childrenOf depth n = some nodes) :
    nodes.Nodup := by
  induction depth generalizing n nodes with
  | zero =>
    rw [nodesFrom] at hnodes
    cases hnodes
  | succ d ih =>
    have hloop : ¬ g.IsBelow n n := by
      intro hloop
      rw [hloop.nodesFrom_eq_none hg] at hnodes
      cases hnodes
    obtain ⟨hall, rfl⟩ := nodesFrom_succ_eq_some.1 hnodes
    have hchild (c : Nat) (hc : c ∈ g.childrenOf n) : ∃ below, nodesFrom g.childrenOf d c = some below :=
      Option.isSome_iff_exists.1 (hall c hc)
    have hmem (c : Nat) (hc : c ∈ g.childrenOf n) (x : Nat)
        (hx : x ∈ (nodesFrom g.childrenOf d c).getD []) : g.IsAtOrBelow x c := by
      obtain ⟨below, hbelow⟩ := hchild c hc
      rw [hbelow] at hx
      exact (mem_nodesFrom hg hbelow).1 hx
    refine List.nodup_cons.2 ⟨fun hn => ?_, List.nodup_flatMap.2 ⟨fun c hc => ?_, ?_⟩⟩
    · obtain ⟨c, hc, hnc⟩ := List.mem_flatMap.1 hn
      exact hloop (.tail' (hmem c hc n hnc) (hg.mem_childrenOf.1 hc))
    · obtain ⟨below, hbelow⟩ := hchild c hc
      rw [hbelow]
      exact ih hbelow
    · refine (hg.nodup n).pairwise_of_forall_ne fun p hp q hq hne x hxp hxq => hloop ?_
      exact isBelow_of_two_children (hg.mem_childrenOf.1 hp) (hg.mem_childrenOf.1 hq) hne
        (hmem p hp x hxp) (hmem q hq x hxq)

/-- A node that is not below itself is listed, where more levels are followed than there are nodes
with parents. -/
theorem exists_nodesFrom {within : Finset Nat} (hg : g.IsConsistent) (hwithin : g.IsWithin within)
    (hloop : ¬ g.IsBelow n n) (hdepth : within.card < depth) :
    ∃ nodes, nodesFrom g.childrenOf depth n = some nodes := by
  classical
  -- Each child has less below it, and so the induction is on the levels that are left.
  suffices hbelow : ∀ depth n, ¬ g.IsBelow n n → (within.filter (g.IsBelow · n)).card < depth →
      ∃ nodes, nodesFrom g.childrenOf depth n = some nodes from
    hbelow depth n hloop ((Finset.card_filter_le _ _).trans_lt hdepth)
  intro depth
  induction depth with
  | zero =>
    intro n _ hcard
    exact absurd hcard (Nat.not_lt_zero _)
  | succ d ih =>
    intro n hloop hcard
    have hall : ∀ c ∈ g.childrenOf n, (nodesFrom g.childrenOf d c).isSome := by
      intro c hc
      have hunder := hg.mem_childrenOf.1 hc
      have hnot : ¬ g.IsBelow c c := fun h => hloop (h.parent hunder)
      have hfewer := hwithin.card_below_lt hunder hnot
      exact Option.isSome_iff_exists.2 (ih c hnot (by omega))
    exact ⟨_, nodesFrom_succ_eq_some.2 ⟨hall, rfl⟩⟩

end LinkTable

end SceneBridge
