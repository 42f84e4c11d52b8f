/-!
# Orders of inheritance

A class inherits in an order that keeps the order of each of its bases, and the order in
which it names them. The next class is always the first one that nothing else has to come
before.
-/

namespace SceneBridge

variable {C : Type} [BEq C]

/-- The first head of some lists that is in no tail. -/
def nextHead? (orders : List (List C)) : Option C :=
  orders.findSome? fun
    | [] => none
    | c :: _ => if orders.any fun o => o.tail.contains c then none else some c

/-- A list without the given head. -/
def dropHead (c : C) : List C → List C
  | [] => []
  | d :: ds => if d == c then ds else d :: ds

/-- One order that keeps all the given ones, of at most `size` classes; `none` if there is no
such order. -/
def mergeOrders : (size : Nat) → List (List C) → Option (List C)
  | size, orders =>
    match size, orders.filter (!·.isEmpty) with
    | _, [] => some []
    | 0, _ => none
    | n + 1, orders => do
      let c ← nextHead? orders
      return c :: (← mergeOrders n (orders.map (dropHead c)))

/-- The order of inheritance of a class with the given bases, each with its own order. -/
def inheritanceOrder? (c : C) (bases : List (C × List C)) : Option (List C) := do
  let orders := bases.map (·.2) ++ [bases.map (·.1)]
  return c :: (← mergeOrders orders.flatten.length orders)

end SceneBridge
