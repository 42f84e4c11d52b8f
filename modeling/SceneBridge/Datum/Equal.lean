import SceneBridge.Datum.Basic
import SceneBridge.Number.Binary

/-!
# Equality of data

Numbers are equal by value across their kinds, truth values counting as zero and
one. Lists are equal item by item, records without regard to order, numeric values
within one class by their components, colours up to a small error. Other objects
are equal only to themselves. Comparing arrays of several cells has no answer.
-/

namespace SceneBridge.Datum

open Number

/-! ## Numbers -/

/-- The number that a datum counts as. -/
def quantity? : Datum → Option Quantity
  | bool b | flag b => some (.whole (if b then 1 else 0))
  | int n => some (.whole n)
  | float x | single x => some (.real x)
  | _ => none

/-! ## Numeric values -/

/-- Is `a` within the tolerance of `b`: an absolute part and a part of `b`? -/
def near (a b : Float) : Bool :=
  a == b || (b.isFinite && a.isFinite && (a - b).abs <= 1e-8 + 1e-5 * b.abs)

/-- Do two lists agree place by place? -/
def allPairs (p : Float → Float → Bool) : List Float → List Float → Bool
  | [], [] => true
  | a :: as, b :: bs => p a b && allPairs p as bs
  | _, _ => false

/-! ## Data -/

/-- The answer of comparing two arrays, if there is one: both have one cell, or the
shapes do not fit together. -/
def equalArrays? (a b : Grid ArrayCell) : Option Bool :=
  match a.cells, b.cells with
  | [c], [c'] => some (c.equal c')
  | _, _ => none

/-- The answer of comparing a cell with a datum that is no array. A number that stands outside of
arrays becomes one of the kind of the cell first: an integer that no double holds has no answer. -/
def equalsCell? (c : ArrayCell) (d : Datum) : Option Bool :=
  match c, d with
  | .real x, .int n => (ofInt? n).map (x == ·)
  | .single x, .int n => (ofInt? n).map fun y => x == toSingle y
  | .single x, .float y => some (x == toSingle y)
  | c, .float y | c, .single y => some (c.toFloat == y)
  | c, d =>
    match d.quantity? with
    | some q => some (c.quantity.equal q)
    | none => some false

/-- Do both answers say yes? The second is not looked at unless the first does. -/
def both? (a b : Option Bool) : Option Bool :=
  match a with
  | some true => b
  | r => r

mutual

/-- Are two data equal? `none` if the question has no answer. -/
def equal? : Datum → Datum → Option Bool
  | null, null => some true
  | text a, text b => some (a == b)
  | list as, list bs => equalLists? as bs
  | tuple as, tuple bs => equalLists? as bs
  | record as, record bs => if as.length == bs.length then equalEntries? as bs else some false
  | bundle as, bundle bs =>
    if as.length == bs.length then equalEntries? as bs else some false
  | array a, array b => equalArrays? a b
  | array a, b =>
    match a.cells with
    | [c] => equalsCell? c b
    | _ => none
  | a, array b =>
    match b.cells with
    | [c] => equalsCell? c a
    | _ => none
  | value _ .color as, value _ .color bs => some (allPairs near as bs)
  | value v k as, value w l bs =>
    some (k == l && v.className == w.className && allPairs (· == ·) as bs)
  | type a, type b => some (a.same b)
  | token a, token b => some (a == b)
  | sceneEvent t g d, sceneEvent t' g' d' =>
    both? (equal? t t') (both? (equal? g g') (equalEntries? d d'))
  | elementEvent t d g b, elementEvent t' d' g' b' =>
    both? (equal? t t') (both? (equal? d d') (both? (equal? g g') (equal? b b')))
  | constructor n l c, constructor n' l' c' => some (n == n' && l == l' && c == c')
  | component t c, component t' c' => some (t == t' && c == c')
  | classRef n h, classRef n' h' => some (n == n' && h == h')
  | object v _ _, object w _ _ => some (v.place == w.place)
  | a, b =>
    match a.quantity?, b.quantity? with
    | some p, some q => some (p.equal q)
    | _, _ => some false

/-- Are two lists of data equal, place by place? -/
def equalLists? : List Datum → List Datum → Option Bool
  | [], [] => some true
  | a :: as, b :: bs =>
    match equal? a b with
    | some true => equalLists? as bs
    | r => r
  | _, _ => some false

/-- Has every entry of the first list an equal entry in the second? -/
def equalEntries? : List (String × Datum) → List (String × Datum) → Option Bool
  | [], _ => some true
  | (k, a) :: as, bs =>
    match bs.lookup k with
    | none => some false
    | some b =>
      match equal? a b with
      | some true => equalEntries? as bs
      | r => r

end

/-- Is the new value a change from the old one? A question without an answer counts as one. -/
def differs (old new : Datum) : Bool :=
  match old, new with
  | array ⟨_, []⟩, _ | _, array ⟨_, []⟩ => false
  | _, _ =>
    match equal? old new with
    | some same => !same
    | none => true

end SceneBridge.Datum
