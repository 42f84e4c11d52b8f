import Mathlib.Data.List.Nodup
import SceneBridge.Node.Links

/-!
# Links made and broken

What becomes of a graph of nodes when one link is made or broken, and which links adding and
removing nodes makes and breaks. In a consistent graph, the children of a node are the nodes that
have it for their parent.
-/

namespace SceneBridge

/-- The links of all nodes. -/
abbrev LinkTable := Nat → Links

/-- What is announced to a node: its link to a parent was made or broken. -/
structure Announcement where
  node : Nat
  change : LinkChange
  parent : Nat
deriving DecidableEq, Repr

namespace LinkTable

variable {g h k : LinkTable} {p c n : Nat} {q : Option Nat} {cs : List Nat}

/-! ## One link -/

/-- The graph with another parent of a node. -/
def setParent (g : LinkTable) (node : Nat) (parent : Option Nat) : LinkTable :=
  Function.update g node { g node with parent }

/-- The graph with other children of a node. -/
def setChildren (g : LinkTable) (node : Nat) (children : List Nat) : LinkTable :=
  Function.update g node { g node with children }

@[simp]
theorem parent_setParent : (g.setParent c q n).parent = if n = c then q else (g n).parent := by
  unfold setParent
  by_cases h : n = c
  · simp [h]
  · simp [h]

@[simp]
theorem children_setParent : (g.setParent c q n).children = (g n).children := by
  unfold setParent
  by_cases h : n = c
  · simp [h]
  · simp [h]

@[simp]
theorem parent_setChildren : (g.setChildren p cs n).parent = (g n).parent := by
  unfold setChildren
  by_cases h : n = p
  · simp [h]
  · simp [h]

@[simp]
theorem children_setChildren :
    (g.setChildren p cs n).children = if n = p then cs else (g n).children := by
  unfold setChildren
  by_cases h : n = p
  · simp [h]
  · simp [h]

/-- The graph without the link of a child to its parent. -/
def unlink (g : LinkTable) (parent child : Nat) : LinkTable :=
  (g.setChildren parent ((g parent).children.erase child)).setParent child none

/-- The graph with a link of a child to a parent, after the links that the parent has. -/
def link (g : LinkTable) (parent child : Nat) : LinkTable :=
  let g := g.setParent child (some parent)
  g.setChildren parent ((g parent).children ++ [child])

/-- The graph after what is announced. -/
def after (g : LinkTable) (a : Announcement) : LinkTable :=
  match a.change with
  | .added => g.link a.parent a.node
  | .removed => g.unlink a.parent a.node

/-- The link that is broken was there, and a link is made of a node that has none. -/
def IsProper (g : LinkTable) (a : Announcement) : Prop :=
  match a.change with
  | .added => (g a.node).parent = none ∧ a.node ≠ a.parent
  | .removed => (g a.node).parent = some a.parent

/-! ## Consistency -/

/-- The children of a node are the nodes that have it for their parent, each of them once, and no
node is its own parent. -/
structure IsConsistent (g : LinkTable) : Prop where
  mem_children_iff : ∀ p c, c ∈ (g p).children ↔ (g c).parent = some p
  nodup : ∀ p, (g p).children.Nodup
  notOwn : ∀ n, (g n).parent ≠ some n

theorem isConsistent_none : IsConsistent fun _ => .none where
  mem_children_iff p c := by simp [Links.none]
  nodup p := List.nodup_nil
  notOwn n := by simp [Links.none]

theorem IsConsistent.unlink (hg : g.IsConsistent) (hc : (g c).parent = some p) :
    (g.unlink p c).IsConsistent where
  mem_children_iff r d := by
    have hmem := hg.mem_children_iff r d
    by_cases hr : r = p
    · subst hr
      by_cases hd : d = c
      · subst hd
        simp [LinkTable.unlink, (hg.nodup r).not_mem_erase]
      · simp [LinkTable.unlink, hd, List.mem_erase_of_ne hd, hmem]
    · by_cases hd : d = c
      · subst hd
        -- The child had `p` for its parent, so `r` did not have it for a child.
        have hnot : d ∉ (g r).children := by
          intro h
          rw [hmem, hc] at h
          exact hr (Option.some.inj h).symm
        simp [LinkTable.unlink, hr, hnot]
      · simp [LinkTable.unlink, hr, hd, hmem]
  nodup r := by
    by_cases hr : r = p
    · subst hr
      simpa [LinkTable.unlink] using (hg.nodup r).erase c
    · simpa [LinkTable.unlink, hr] using hg.nodup r
  notOwn n := by
    by_cases hn : n = c
    · simp [LinkTable.unlink, hn]
    · simpa [LinkTable.unlink, hn] using hg.notOwn n

theorem IsConsistent.link (hg : g.IsConsistent) (hc : (g c).parent = none) (hne : c ≠ p) :
    (g.link p c).IsConsistent where
  mem_children_iff r d := by
    have hmem := hg.mem_children_iff r d
    by_cases hd : d = c
    · subst hd
      have hnot : d ∉ (g r).children := by simp [hmem, hc]
      by_cases hr : r = p
      · simp [LinkTable.link, hr]
      · simp [LinkTable.link, hr, hnot, Ne.symm hr]
    · by_cases hr : r = p
      · subst hr
        simp [LinkTable.link, hd, hmem]
      · simp [LinkTable.link, hr, hd, hmem]
  nodup r := by
    by_cases hr : r = p
    · subst hr
      have hnot : c ∉ (g r).children := by simp [hg.mem_children_iff, hc]
      have hall : ((g r).children ++ [c]).Nodup :=
        (hg.nodup r).append (List.nodup_singleton c) (by simpa using hnot)
      simpa [LinkTable.link] using hall
    · simpa [LinkTable.link, hr] using hg.nodup r
  notOwn n := by
    by_cases hn : n = c
    · subst hn
      simpa [LinkTable.link] using Ne.symm hne
    · simpa [LinkTable.link, hn] using hg.notOwn n

theorem IsConsistent.after (hg : g.IsConsistent) {a : Announcement} (ha : g.IsProper a) :
    (g.after a).IsConsistent := by
  obtain ⟨node, change, parent⟩ := a
  cases change with
  | added => exact hg.link ha.1 ha.2
  | removed => exact hg.unlink ha

/-! ## Many links -/

/-- One graph comes of another by the announced changes, one link at a time. -/
inductive Leads : LinkTable → List Announcement → LinkTable → Prop where
  | nil (g : LinkTable) : Leads g [] g
  | cons {g h : LinkTable} {a : Announcement} {as : List Announcement} (ha : g.IsProper a)
      (hrest : Leads (g.after a) as h) : Leads g (a :: as) h

theorem Leads.append {as bs : List Announcement} (h₁ : Leads g as h) (h₂ : Leads h bs k) :
    Leads g (as ++ bs) k := by
  induction h₁ with
  | nil g => exact h₂
  | cons ha _ ih => exact .cons ha (ih h₂)

theorem Leads.isConsistent {as : List Announcement} (hlead : Leads g as h) (hg : g.IsConsistent) :
    h.IsConsistent := by
  induction hlead with
  | nil g => exact hg
  | cons ha _ ih => exact ih (hg.after ha)

/-! ## What is announced -/

/-- A node leaves its parent, if it has one. -/
def departure (g : LinkTable) (node : Nat) : List Announcement :=
  match (g node).parent with
  | some parent => [⟨node, .removed, parent⟩]
  | none => []

/-- A child is added: it leaves its old parent first. A node is never added to itself. -/
def adoption (g : LinkTable) (parent child : Nat) : List Announcement :=
  if child = parent then [] else g.departure child ++ [⟨child, .added, parent⟩]

/-- Some children are added, up to the first one that is no node. -/
def adoptions (g : LinkTable) (parent : Nat) : List (Option Nat) → List Announcement
  | [] | none :: _ => []
  | some child :: rest =>
    g.adoption parent child ++ adoptions ((g.adoption parent child).foldl after g) parent rest

/-- A child is removed; a node that is no child is left alone. -/
def removal (g : LinkTable) (parent child : Nat) : List Announcement :=
  if (g child).parent = some parent then [⟨child, .removed, parent⟩] else []

/-- Some children are removed. -/
def removals (g : LinkTable) (parent : Nat) : List Nat → List Announcement
  | [] => []
  | child :: rest =>
    g.removal parent child ++ removals ((g.removal parent child).foldl after g) parent rest

/-- The changes come one after the other from the graph as it is. -/
def IsSequence (g : LinkTable) (as : List Announcement) : Prop :=
  Leads g as (as.foldl after g)

theorem IsSequence.append {as bs : List Announcement} (h₁ : g.IsSequence as)
    (h₂ : IsSequence (as.foldl after g) bs) : g.IsSequence (as ++ bs) := by
  unfold IsSequence at *
  rw [List.foldl_append]
  exact h₁.append h₂

theorem departure_isSequence (g : LinkTable) (c : Nat) : g.IsSequence (g.departure c) := by
  unfold departure
  split
  · rename_i parent hparent
    exact .cons hparent (.nil _)
  · exact .nil g

theorem parent_after_departure (g : LinkTable) (c : Nat) :
    ((g.departure c).foldl after g c).parent = none := by
  unfold departure
  split
  · simp [after, unlink]
  · assumption

theorem adoption_isSequence (g : LinkTable) (p c : Nat) : g.IsSequence (g.adoption p c) := by
  unfold adoption
  split
  · exact .nil g
  · rename_i hne
    exact (departure_isSequence g c).append (.cons ⟨parent_after_departure g c, hne⟩ (.nil _))

theorem adoptions_isSequence (g : LinkTable) (p : Nat) (children : List (Option Nat)) :
    g.IsSequence (g.adoptions p children) := by
  induction children generalizing g with
  | nil => exact .nil g
  | cons child children ih =>
    cases child with
    | none => exact .nil g
    | some child => exact (adoption_isSequence g p child).append (ih _)

theorem removal_isSequence (g : LinkTable) (p c : Nat) : g.IsSequence (g.removal p c) := by
  unfold removal
  split
  · rename_i hc
    exact .cons hc (.nil _)
  · exact .nil g

theorem removals_isSequence (g : LinkTable) (p : Nat) (children : List Nat) :
    g.IsSequence (g.removals p children) := by
  induction children generalizing g with
  | nil => exact .nil g
  | cons child children ih => exact (removal_isSequence g p child).append (ih _)

/-- Removing different children breaks all their links, in the order in which they are given. -/
theorem removals_eq_map {children : List Nat} (hnodup : children.Nodup)
    (hchildren : ∀ c ∈ children, (g c).parent = some p) :
    g.removals p children = children.map (⟨·, .removed, p⟩) := by
  induction children generalizing g with
  | nil => rfl
  | cons child children ih =>
    have hchild := hchildren child List.mem_cons_self
    have hrest : ∀ c ∈ children, (g.unlink p child c).parent = some p := by
      intro c hc
      have hne : c ≠ child := by
        rintro rfl
        exact (List.nodup_cons.1 hnodup).1 hc
      simpa [unlink, hne] using hchildren c (List.mem_cons_of_mem _ hc)
    rw [removals, removal, if_pos hchild, List.map_cons, List.singleton_append]
    exact congrArg _ (ih (List.nodup_cons.1 hnodup).2 hrest)

end LinkTable

end SceneBridge
