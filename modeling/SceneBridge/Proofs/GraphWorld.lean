import SceneBridge.Proofs.LinkChanges
import SceneBridge.Proofs.Possible

/-!
# A graph among listeners

Nodes that are added to one another and removed, and who listens to that. Listeners may do anything
but change the graph, and may fail. Whatever is done, the graph stays consistent, and what is
announced are the links that are made and broken, each of them once and in this order.
-/

namespace SceneBridge

open Possibly LinkTable

/-- The links of all nodes, what was announced so far, and who listens to which node. -/
structure GraphWorld (V : Type) where
  links : LinkTable
  announced : List Announcement
  listeners : Nat → Listeners LinkChange V

namespace GraphWorld

variable {V : Type} {w x : GraphWorld V} {p c : Nat}

/-- The graph is left alone. -/
structure KeepsGraph (w x : GraphWorld V) : Prop where
  links : x.links = w.links
  announced : x.announced = w.announced

theorem keepsGraph_isStep : IsStep (KeepsGraph (V := V)) where
  refl _ := ⟨rfl, rfl⟩
  trans h₁ h₂ := ⟨h₂.links.trans h₁.links, h₂.announced.trans h₁.announced⟩

/-! ## The graph -/

/-- Whatever leaves the graph alone, whether or not it fails. -/
def aside : Possibly (GraphWorld V) Unit :=
  fun w e => KeepsGraph w e.2

/-- The graph whose nodes do not remove children in a way of their own. -/
def bareGraph : Graph (Possibly (GraphWorld V)) Unit where
  links node := read (·.links node)
  setLinks node l := change fun w => { w with links := Function.update w.links node l }
  announce node linkChange parent := do
    change fun w => { w with announced := w.announced ++ [⟨node, linkChange, parent⟩] }
    SceneBridge.announce (read (·.listeners node)) linkChange fun _ => aside
  detach _ _ := pure ()

/-- The graph whose nodes remove children as all nodes do. -/
def graph : Graph (Possibly (GraphWorld V)) Unit :=
  { bareGraph with detach := bareGraph.remove }

/-! ## Operations -/

/-- What is done to nodes, or by others in between. -/
inductive Operation where
  /-- Some things are added to a node, of which each is a node or none. -/
  | add (parent : Nat) (children : List (Option Nat))
  /-- Some things are removed from a node; those that are no nodes are left alone. -/
  | remove (parent : Nat) (children : List (Option Nat))
  | clear (parent : Nat)
  | leave (node : Nat)
  | elsewhere

namespace Operation

/-- The node that a thing is. -/
def nodeOf : Option Nat → Possibly (GraphWorld V) Nat
  | some node => pure node
  | none => throwThe Fault (.noAttribute "object" "_parent")

/-- What the operation does. -/
def run : Operation → Possibly (GraphWorld V) Unit
  | add parent children => graph.add parent (children.map nodeOf)
  | remove parent children => graph.remove parent children.reduceOption
  | clear parent => graph.clear parent
  | leave node => graph.leave node
  | elsewhere => aside

/-- What the operation announces. -/
def announcements (g : LinkTable) : Operation → List Announcement
  | add parent children => g.adoptions parent children
  | remove parent children => g.removals parent children.reduceOption
  | clear parent => (g parent).children.map (⟨·, .removed, parent⟩)
  | leave node => g.departure node
  | elsewhere => []

/-- Is a thing to be added that is no node? -/
def isRefused : Operation → Bool
  | add _ children => children.contains none
  | _ => false

end Operation

/-! ## One link -/

/-- The graph after some changes, which were announced. -/
structure Announces (as : List Announcement) (w x : GraphWorld V) : Prop where
  links : x.links = as.foldl after w.links
  announced : x.announced = w.announced ++ as

theorem Announces.nil (h : KeepsGraph w x) : Announces [] w x :=
  ⟨h.links, by simpa using h.announced⟩

theorem Announces.append {u : GraphWorld V} {as bs : List Announcement} (h₁ : Announces as w u)
    (h₂ : Announces bs u x) : Announces (as ++ bs) w x where
  links := by rw [h₂.links, h₁.links, List.foldl_append]
  announced := by rw [h₂.announced, h₁.announced, List.append_assoc]

/-- The computation returns with the graph after some changes, which were announced. -/
def Makes {α : Type} (as : List Announcement) (w : GraphWorld V) (e : Except Fault α × GraphWorld V) :
    Prop :=
  (∃ a, e.1 = .ok a) ∧ Announces as w e.2

/-- One computation after another makes the changes of both. -/
theorem Makes.bind {α β : Type} {x : Possibly (GraphWorld V) α} {f : α → Possibly (GraphWorld V) β}
    {as bs : List Announcement} (hx : Ensures x w (Makes as w))
    (hf : ∀ a t, Announces as w t → Ensures (f a) t (Makes bs t)) :
    Ensures (x >>= f) w (Makes (as ++ bs) w) := by
  refine .bind hx (fun a t ht => ?_) fun fault t ht => ?_
  · exact (hf a t ht.2).mono fun e he => ⟨he.1, ht.2.append he.2⟩
  · obtain ⟨a, ha⟩ := ht.1
    cases ha

/-- What is announced once a link was changed is heard to no effect on the graph. -/
theorem announce_makes {g : LinkTable} (a : Announcement) (hg : w.links = g.after a) :
    Ensures (bareGraph.announce a.node a.change a.parent) w fun e =>
      e.1 = .ok () ∧ e.2.links = g.after a ∧ e.2.announced = w.announced ++ [a] := by
  refine .of_ends (.change _ w) (.of_ends (.read _ _) ?_)
  have haside (l : V) (t : GraphWorld V) : Ensures (aside : Possibly (GraphWorld V) Unit) t
      fun e => KeepsGraph t e.2 :=
    ⟨⟨(.ok (), t), keepsGraph_isStep.refl t⟩, fun _ => id⟩
  refine (Ensures.deliver keepsGraph_isStep haside _ _).mono fun e he => ⟨he.1, ?_, he.2.announced⟩
  exact he.2.links.trans hg

theorem removeChild_makes (hw : w.links.IsConsistent) :
    Ensures (bareGraph.removeChild p c) w (Makes (w.links.removal p c) w) := by
  refine .of_ends (.read _ w) ?_
  have hmem := hw.mem_children_iff p c
  unfold removal
  by_cases hc : (w.links c).parent = some p
  · have hcontains : (w.links p).children.contains c = true := by simpa [hmem] using hc
    rw [if_pos hcontains, if_pos hc]
    refine .of_ends (.change _ w) (.of_ends (.read _ _) (.of_ends (.change _ _) ?_))
    refine (announce_makes (g := w.links) ⟨c, .removed, p⟩ rfl).mono fun e he => ?_
    exact ⟨⟨(), he.1⟩, he.2.1, he.2.2⟩
  · have hcontains : ¬ (w.links p).children.contains c = true := by simpa [hmem] using hc
    rw [if_neg hcontains, if_neg hc]
    exact .pure ⟨⟨_, rfl⟩, .nil (keepsGraph_isStep.refl w)⟩

theorem remove_makes (hw : w.links.IsConsistent) (children : List Nat) :
    Ensures (bareGraph.remove p children) w (Makes (w.links.removals p children) w) := by
  induction children generalizing w with
  | nil => exact .pure ⟨⟨_, rfl⟩, .nil (keepsGraph_isStep.refl w)⟩
  | cons child children ih =>
    refine Makes.bind (removeChild_makes hw) fun _ t ht => ?_
    have hlead := removal_isSequence w.links p child
    have hconsistent : t.links.IsConsistent := ht.links ▸ hlead.isConsistent hw
    rw [← ht.links]
    exact ih hconsistent

/-- A node leaves its parent by being the one child that the parent removes. -/
theorem leave_makes (hw : w.links.IsConsistent) (node : Nat) :
    Ensures (graph.leave node) w (Makes (w.links.departure node) w) := by
  refine .of_ends (.read _ w) ?_
  unfold departure
  cases hparent : (w.links node).parent with
  | none => exact .pure ⟨⟨_, rfl⟩, .nil (keepsGraph_isStep.refl w)⟩
  | some parent =>
    have hremoved := remove_makes hw (p := parent) [node]
    have hone : w.links.removals parent [node] = [⟨node, .removed, parent⟩] := by
      simp [removals, removal, hparent]
    rw [hone] at hremoved
    rw [← List.append_nil [_]]
    exact Makes.bind hremoved fun _ t _ => .pure ⟨⟨_, rfl⟩, .nil (keepsGraph_isStep.refl t)⟩

theorem addChild_makes (hw : w.links.IsConsistent) :
    Ensures (graph.addChild p c) w (Makes (w.links.adoption p c) w) := by
  unfold adoption
  by_cases hself : c = p
  · rw [if_pos hself]
    have hends : Ends (graph.addChild p c) w () w := .ite_of_pos (by simpa using hself) (.pure () w)
    exact ⟨⟨_, (hends _).2 rfl⟩, fun e he => (hends e).1 he ▸
      ⟨⟨_, rfl⟩, .nil (keepsGraph_isStep.refl w)⟩⟩
  · rw [if_neg hself]
    have hadd : Ensures (do
        graph.leave c
        graph.setLinks c { (← graph.links c) with parent := some p }
        let l ← graph.links p
        graph.setLinks p { l with children := l.children ++ [c] }
        graph.announce c .added p) w (Makes (w.links.departure c ++ [⟨c, .added, p⟩]) w) := by
      refine Makes.bind (leave_makes hw c) fun _ t _ => ?_
      refine .of_ends (.read _ t) (.of_ends (.change _ t) (.of_ends (.read _ _) ?_))
      refine .of_ends (.change _ _) ?_
      refine (announce_makes (g := t.links) ⟨c, .added, p⟩ rfl).mono fun e he => ?_
      exact ⟨⟨(), he.1⟩, he.2.1, he.2.2⟩
    unfold Graph.addChild
    simpa [hself] using hadd

/-! ## Many links -/

/-- The children are added up to the first thing that is no node, which is refused. -/
theorem add_makes (hw : w.links.IsConsistent) (children : List (Option Nat)) :
    Ensures (graph.add p (children.map Operation.nodeOf)) w fun e =>
      (e.1 = .ok () ↔ children.contains none = false) ∧
        Announces (w.links.adoptions p children) w e.2 := by
  induction children generalizing w with
  | nil => exact .pure ⟨by simp, .nil (keepsGraph_isStep.refl w)⟩
  | cons child children ih =>
    cases child with
    | none =>
      have hrefused : Breaks (do graph.addChild p (← Operation.nodeOf none)) w
          (.noAttribute "object" "_parent") w := (Breaks.throw _ w).bind
      have hends : Breaks (graph.add p ((none :: children).map Operation.nodeOf)) w
          (.noAttribute "object" "_parent") w := hrefused.bind
      refine ⟨⟨_, (hends _).2 rfl⟩, fun e he => ?_⟩
      obtain rfl := (hends e).1 he
      exact ⟨by simp, .nil (keepsGraph_isStep.refl w)⟩
    | some child =>
      have hfirst : Ensures (do graph.addChild p (← Operation.nodeOf (some child))) w
          (Makes (w.links.adoption p child) w) :=
        .of_ends (.pure child w) (addChild_makes hw)
      refine .bind hfirst (fun _ t ht => ?_) fun fault t ht => ?_
      · have hlead := adoption_isSequence w.links p child
        have hconsistent : t.links.IsConsistent := ht.2.links ▸ hlead.isConsistent hw
        refine (ih hconsistent).mono fun e he => ⟨by simpa using he.1, ?_⟩
        have hrest := he.2
        rw [ht.2.links] at hrest
        exact ht.2.append hrest
      · obtain ⟨a, ha⟩ := ht.1
        cases ha

/-- Removing all children breaks the link of each of them. -/
theorem clear_makes (hw : w.links.IsConsistent) :
    Ensures (graph.clear p) w (Makes ((w.links p).children.map (⟨·, .removed, p⟩)) w) := by
  have hchildren : ∀ c ∈ (w.links p).children, (w.links c).parent = some p := by
    intro c hc
    exact (hw.mem_children_iff p c).1 hc
  refine .of_ends (.read _ w) ?_
  rw [← removals_eq_map (hw.nodup p) hchildren]
  exact remove_makes hw _

/-! ## Operations -/

namespace Operation

/-- The operation comes to an end: its changes are announced, and it returns unless it was to add
what is no node. -/
def IsDone (op : Operation) (w : GraphWorld V) (e : Except Fault Unit × GraphWorld V) : Prop :=
  (op ≠ .elsewhere → (e.1 = .ok () ↔ op.isRefused = false)) ∧
    Announces (op.announcements w.links) w e.2

theorem run_isDone (hw : w.links.IsConsistent) (op : Operation) :
    Ensures op.run w (op.IsDone w) := by
  have hmade {as : List Announcement} {e : Except Fault Unit × GraphWorld V} (he : Makes as w e) :
      e.1 = .ok () ∧ Announces as w e.2 := by
    obtain ⟨⟨_, hok⟩, has⟩ := he
    exact ⟨hok, has⟩
  cases op with
  | add parent children => exact (add_makes hw children).mono fun e he => ⟨fun _ => he.1, he.2⟩
  | remove parent children =>
    refine (remove_makes hw children.reduceOption).mono fun e he => ?_
    exact ⟨fun _ => by simp [isRefused, (hmade he).1], (hmade he).2⟩
  | clear parent =>
    refine (clear_makes hw).mono fun e he => ?_
    exact ⟨fun _ => by simp [isRefused, (hmade he).1], (hmade he).2⟩
  | leave node =>
    refine (leave_makes hw node).mono fun e he => ?_
    exact ⟨fun _ => by simp [isRefused, (hmade he).1], (hmade he).2⟩
  | elsewhere =>
    refine ⟨⟨(.ok (), w), keepsGraph_isStep.refl w⟩, fun e he => ?_⟩
    exact ⟨fun h => absurd rfl h, .nil he⟩

theorem announcements_isSequence {g : LinkTable} (hg : g.IsConsistent) (op : Operation) :
    g.IsSequence (op.announcements g) := by
  cases op with
  | add parent children => exact adoptions_isSequence g parent children
  | remove parent children => exact removals_isSequence g parent children.reduceOption
  | clear parent =>
    have hchildren : ∀ c ∈ (g parent).children, (g c).parent = some parent := by
      intro c hc
      exact (hg.mem_children_iff parent c).1 hc
    have hall := removals_isSequence g parent (g parent).children
    rw [removals_eq_map (hg.nodup parent) hchildren] at hall
    exact hall
  | leave node => exact departure_isSequence g node
  | elsewhere => exact .nil g

end Operation

/-! ## Runs -/

/-- The graph is consistent and comes of what was announced. -/
structure IsAnnounced (start w : GraphWorld V) : Prop where
  consistent : w.links.IsConsistent
  leads : Leads start.links w.announced w.links

theorem IsAnnounced.step {start : GraphWorld V} (h : IsAnnounced start w) {op : Operation}
    {outcome : Except Fault Unit} (hrun : op.run w (outcome, x)) : IsAnnounced start x := by
  obtain ⟨-, hlinks, hannounced⟩ := (op.run_isDone h.consistent).2 _ hrun
  have hsequence := op.announcements_isSequence h.consistent
  unfold IsSequence at hsequence
  rw [← hlinks] at hsequence
  refine ⟨hsequence.isConsistent h.consistent, ?_⟩
  rw [hannounced]
  exact h.leads.append hsequence

theorem IsAnnounced.run {start : GraphWorld V} {ops : List Operation} (h : IsAnnounced start w)
    (hrun : Runs Operation.run ops w x) : IsAnnounced start x := by
  induction hrun with
  | nil w => exact h
  | cons hfirst _ ih => exact ih (h.step hfirst)

/-- No node has a link yet, and nothing was announced. -/
structure IsFresh (w : GraphWorld V) : Prop where
  links : w.links = fun _ => .none
  announced : w.announced = []

/-- Whatever was done to new nodes, the children of a node are those that have it for their parent,
each of them once, no node is its own parent, and the graph comes of what was announced, link by
link. Each further operation comes to an end, announces the links that it breaks and makes, in this
order for a node that changes its parent, and is refused only where it is to add what is no node. -/
theorem links_as_announced {start : GraphWorld V} (hfresh : start.IsFresh) {ops : List Operation}
    (hrun : Runs Operation.run ops start w) :
    w.links.IsConsistent ∧ Leads (fun _ => .none) w.announced w.links ∧
      ∀ op : Operation, Ensures op.run w (op.IsDone w) := by
  have hstart : IsAnnounced start start := by
    refine ⟨hfresh.links ▸ isConsistent_none, ?_⟩
    rw [hfresh.announced]
    exact .nil _
  have hw := hstart.run hrun
  exact ⟨hw.consistent, hfresh.links ▸ hw.leads, fun op => op.run_isDone hw.consistent⟩

/-! ## A node that changes its parent -/

/-- New nodes, with a listener to whatever is added. -/
def heardGraph : GraphWorld Nat where
  links _ := .none
  announced := []
  listeners _ := ⟨[(.added, [7])]⟩

/-- A node is added to two nodes in turn; the second time, things that cannot be added follow. -/
theorem child_changes_parent :
    ∃ w : GraphWorld Nat,
      Runs Operation.run [.add 1 [some 2], .add 3 [some 2, some 3, none]] heardGraph w ∧
        w.announced = [⟨2, .added, 1⟩, ⟨2, .removed, 1⟩, ⟨2, .added, 3⟩] ∧
        (w.links 1).children = [] ∧ (w.links 3).children = [2] ∧ (w.links 2).parent = some 3 := by
  have hfresh : heardGraph.IsFresh := ⟨rfl, rfl⟩
  obtain ⟨-, -, hdone⟩ := links_as_announced hfresh (.nil _)
  obtain ⟨⟨⟨first, u⟩, hu⟩, hall⟩ := hdone (.add 1 [some 2])
  obtain ⟨-, hlinks, hannounced⟩ := hall _ hu
  have hrun : Runs Operation.run [.add 1 [some 2]] heardGraph u := .cons hu (.nil u)
  obtain ⟨-, -, hdone'⟩ := links_as_announced hfresh hrun
  obtain ⟨⟨⟨second, w⟩, hw⟩, hall'⟩ := hdone' (.add 3 [some 2, some 3, none])
  obtain ⟨-, hlinks', hannounced'⟩ := hall' _ hw
  rw [hlinks] at hlinks' hannounced'
  rw [hannounced] at hannounced'
  refine ⟨w, .cons hu (.cons hw (.nil w)), hannounced', ?_, ?_, ?_⟩
  · rw [hlinks']
    rfl
  · rw [hlinks']
    rfl
  · rw [hlinks']
    rfl

end GraphWorld

end SceneBridge
