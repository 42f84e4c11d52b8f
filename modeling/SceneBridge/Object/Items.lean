import SceneBridge.Object.Arguments

/-!
# Items

What is inside of lists, texts, records, arrays and vectors: going through the items,
counting them, and reaching one by its place or key.
-/

namespace SceneBridge.Act

/-! ## Arrays -/

/-- The rows of an array, or its cells if it has one dimension. -/
def arrayItems (a : NumArray) : Act (List Value) := do
  match a.shape with
  | [] => fail (.basic .type "iteration over a 0-d array")
  | [_] => return a.cells.map .float
  | n :: shape =>
    let size := shape.foldl (· * ·) 1
    (List.range n).mapM fun i => newArray ⟨shape, (a.cells.drop (i * size)).take size⟩

/-- The array that a value is. -/
def arrayOf? (v : Value) : Act (Option NumArray) := do
  match ← body v with
  | .array a => return some a
  | _ => return none

/-! ## All items -/

/-- The items of a value, in order. -/
def items (v : Value) : Act (List Value) := do
  match v with
  | .tuple vs => return vs
  | .text s => return s.toList.map fun c => .text (String.singleton c)
  | .object p =>
    match (← entity p).body with
    | .list vs => return vs
    | .record es | .view es => return es.map fun (k, _) => .text k
    | .array a => arrayItems a
    | .components _ parts => return parts.map .float
    | _ => notIterable
  | _ => notIterable
where
  /-- The value has no items. -/
  notIterable : Act (List Value) := do
    fail (.basic .type ("'" ++ (← typeName v) ++ "' object is not iterable"))

/-- The number of items of a value. -/
def length (v : Value) : Act Nat := do
  match v with
  | .tuple vs => return vs.length
  | .text s => return s.length
  | .object p =>
    match (← entity p).body with
    | .list vs => return vs.length
    | .record es | .view es => return es.length
    | .components _ parts => return parts.length
    | .registry r => return r.entries.length
    | .constructors t => return t.registry.entries.length
    | .cache c _ => return c.entries.length
    | .array ⟨n :: _, _⟩ => return n
    | _ => noLength
  | _ => noLength
where
  /-- The value has no items to count. -/
  noLength : Act Nat := do
    fail (.basic .type ("object of type '" ++ (← typeName v) ++ "' has no len()"))

/-! ## One item -/

/-- The place in a list that an index means; indices below zero count from the end. -/
def index? (count : Nat) (i : Int) : Option Nat :=
  let j := if i < 0 then i + count else i
  if 0 ≤ j && j < count then some j.toNat else none

/-- The index that a value is. -/
def asIndex? : Value → Option Int
  | .int n => some n
  | .bool b => some (if b then 1 else 0)
  | _ => none

/-- The item of a list at an index. -/
def itemAt (vs : List Value) (key : Value) : Act Value := do
  match asIndex? key with
  | none => fail (.basic .type "indices must be integers or slices")
  | some i =>
    match (index? vs.length i).bind (vs[·]?) with
    | some v => return v
    | none => fail (.basic .index "index out of range")

/-- The item of a value under a key. -/
def item (v key : Value) : Act Value := do
  match v with
  | .tuple vs => itemAt vs key
  | .text _ => itemAt (← items v) key
  | .object p =>
    match (← entity p).body with
    | .list vs => itemAt vs key
    | .record es | .view es =>
      match key with
      | .text k =>
        match es.lookup k with
        | some x => return x
        | none => fail (.basic .key k)
      | key => fail (.basic .key (← see key).quote)
    | .components _ _ | .array _ =>
      match key with
      | .int _ => itemAt (← items v) key
      | .text _ | .float _ => fail (.basic .index "only integers and slices are valid indices")
      | _ => fail (.basic .type "only length-1 arrays can be converted to scalars")
    | _ => noItems
  | _ => noItems
where
  /-- The value has no items. -/
  noItems : Act Value := do
    fail (.basic .type ("'" ++ (← typeName v) ++ "' object is not subscriptable"))

/-- Sets the item of a value under a key. -/
def setItem (v key x : Value) : Act Unit := do
  match v with
  | .object p =>
    match (← entity p).body with
    | .list vs =>
      match (asIndex? key).map (index? vs.length) with
      | some (some i) => change p ({ · with body := .list (vs.set i x) })
      | some none => fail (.basic .index "assignment index out of range")
      | none => fail (.basic .type "indices must be integers or slices")
    | .record es =>
      change p ({ · with body := .record (Entries.put es (← plain key) x) })
    | .array ⟨[n], cells⟩ =>
      match (asIndex? key).map (index? n) with
      | some (some i) =>
        let y ← ofExcept (← see x).toFloat
        change p ({ · with body := .array ⟨[n], cells.set i y⟩ })
      | _ => fail (.basic .index "index out of bounds")
    | _ => noItems
  | _ => noItems
where
  /-- The value has no items that can be set. -/
  noItems : Act Unit := do
    fail (.basic .type ("'" ++ (← typeName v) ++ "' object does not support item assignment"))

/-- Is one of some values the value, or equal to it? -/
def anyEqual (vs : List Value) (x : Value) : Act Bool := do
  match vs with
  | [] => return false
  | v :: vs =>
    match ← equal? v x with
    | some true => return true
    | some false => anyEqual vs x
    | none => fail .ambiguousTruth

/-- Can the value be a key? -/
def isKey (v : Value) : Act Bool := do
  match v with
  | .object p =>
    let e ← entity p
    match e.body with
    | .list _ | .record _ | .view _ | .array _ | .components .. => return false
    | _ =>
      let w ← get
      let mutable : List LibraryClass := [.bundle, .matrix, .color, .sceneEvent, .elementEvent]
      return !mutable.any (w.inherits e.class_ ·)
  | _ => return true

/-- A value that is used as a key. -/
def key (v : Value) : Act Value := do
  if ← isKey v then return v
  else fail (.basic .type ("unhashable type: '" ++ (← typeName v) ++ "'"))

/-- Is a value inside of another one? -/
def contains (v x : Value) : Act Bool := do
  match v with
  | .text s =>
    match x with
    | .text t => return (s.splitOn t).length > 1 || t.isEmpty
    | _ => fail (.basic .type "'in <string>' requires string as left operand")
  | .object p =>
    match (← entity p).body with
    | .record es | .view es =>
      match ← key x with
      | .text k => return Entries.has es k
      | _ => return false
    | .registry r | .constructors ⟨r, _⟩ =>
      match x with
      | .text s => return (r.lookup? (.text s)).any (!·.isNull)
      | _ => return false
    | .cache c _ =>
      match ← key x with
      | .classRef k => return Entries.has c.entries k
      | _ => return false
    | _ => anyEqual (← items v) x
  | v => anyEqual (← items v) x

end SceneBridge.Act
