import SceneBridge.Fault

/-!
# Links between nodes

A node has at most one parent and a list of children. Adding a node to another one
takes it away from its old parent first; every link that is made or broken is
announced to the child. The nodes below a node are listed, or looked at one by one, parents
first.
-/

namespace SceneBridge

/-- The links of a node. -/
structure Links where
  parent : Option Nat
  children : List Nat
deriving Inhabited, Repr, DecidableEq

/-- A node without links. -/
def Links.none : Links := ⟨.none, []⟩

/-- What happens to a link. -/
inductive LinkChange where
  | added
  | removed
deriving DecidableEq, Repr

/-- The name under which a change is announced. -/
def LinkChange.name : LinkChange → String
  | added => "added"
  | removed => "removed"

/-- What changing links needs: the links of every node, and a way to announce changes. -/
structure Graph (m : Type → Type) (R : Type) where
  links : Nat → m Links
  setLinks : Nat → Links → m Unit
  /-- Tells a node of a change of its link to a parent. -/
  announce : (node : Nat) → LinkChange → (parent : Nat) → m Unit
  /-- Makes a parent remove some children in its own way. -/
  detach : (parent : Nat) → (children : List Nat) → m R

namespace Graph

variable {m : Type → Type} [Monad m] {R : Type}

/-- Removes a child; a node that is no child is left alone. -/
def removeChild (g : Graph m R) (parent child : Nat) : m Unit := do
  let l ← g.links parent
  if l.children.contains child then
    g.setLinks parent { l with children := l.children.erase child }
    g.setLinks child { (← g.links child) with parent := none }
    g.announce child .removed parent

/-- Removes some children, one after the other. -/
def remove (g : Graph m R) (parent : Nat) (children : List Nat) : m Unit :=
  children.forM (g.removeChild parent)

/-- Removes a node from its parent, if it has one. -/
def leave (g : Graph m R) (node : Nat) : m Unit := do
  if let some parent := (← g.links node).parent then
    let _ ← g.detach parent [node]

/-- Removes all children. -/
def clear (g : Graph m R) (parent : Nat) : m R := do
  g.detach parent (← g.links parent).children

/-- Adds a child, away from its old parent. A node is never added to itself. -/
def addChild (g : Graph m R) (parent child : Nat) : m Unit := do
  if child == parent then return
  g.leave child
  g.setLinks child { (← g.links child) with parent := some parent }
  let l ← g.links parent
  g.setLinks parent { l with children := l.children ++ [child] }
  g.announce child .added parent

/-- Adds some children, one after the other; which node each of them is, is asked when its
turn comes. -/
def add (g : Graph m R) (parent : Nat) (children : List (m Nat)) : m Unit :=
  children.forM fun child => do g.addChild parent (← child)

/-- What a node comes to among the nodes above it: what it has by itself, put under what its
parent comes to. -/
def underParent {α : Type} (g : Graph m R) (own : m α) (ofParent : Nat → m α)
    (under : α → α → m α) (node : Nat) : m α := do
  let a ← own
  match (← g.links node).parent with
  | none => return a
  | some parent => under (← ofParent parent) a

end Graph

/-! ## Traversal -/

namespace Graph

variable {m : Type → Type} [Monad m] [MonadExceptOf Fault m] {R α : Type}

mutual

/-- Looks at a node and at the nodes below it until something is found, at most `depth` levels
down and at less than `width` children of a node. The nodes come as in `nodesFrom`. The children
are looked up as they come, so that looking can change what comes next. -/
def search (g : Graph m R) (look : Nat → m (Option α)) (width depth node : Nat) : m (Option α) :=
  match depth with
  | 0 => throwThe Fault .tooDeep
  | d + 1 => do
    match ← look node with
    | some a => return some a
    | none => g.searchChildren look width d node 0 width
termination_by (depth, 0)

/-- Looks at the children of a node from the given one on, at less than `left` of them. -/
def searchChildren (g : Graph m R) (look : Nat → m (Option α)) (width depth node index left : Nat) :
    m (Option α) :=
  match left with
  | 0 => throwThe Fault .tooDeep
  | k + 1 => do
    match (← g.links node).children[index]? with
    | none => return none
    | some child =>
      match ← g.search look width depth child with
      | some a => return some a
      | none => g.searchChildren look width depth node (index + 1) k
termination_by (depth, left + 1)

end

/-- Visits a node and the nodes below it. -/
def traverse (g : Graph m R) (visit : Nat → m Unit) (width depth node : Nat) : m Unit := do
  -- A visit finds nothing, so that all nodes are visited.
  let look (n : Nat) : m (Option Empty) := do
    visit n
    return none
  let _ ← g.search look width depth node

end Graph

mutual

/-- A node and all nodes below it, at most `depth` levels down: a node comes before its
children, and what is below a child before the next child. `none` if there are more levels. -/
def nodesFrom (children : Nat → List Nat) (depth : Nat) (node : Nat) : Option (List Nat) :=
  match depth with
  | 0 => none
  | d + 1 => (nodesFromAll children d (children node)).map (node :: ·)
termination_by (depth, 0)

/-- The nodes from each of some nodes, one after the other. -/
def nodesFromAll (children : Nat → List Nat) (depth : Nat) (nodes : List Nat) :
    Option (List Nat) :=
  match nodes with
  | [] => some []
  | n :: ns => do
    let here ← nodesFrom children depth n
    return here ++ (← nodesFromAll children depth ns)
termination_by (depth, nodes.length + 1)

end

end SceneBridge
