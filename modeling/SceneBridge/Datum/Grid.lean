import SceneBridge.Number.Binary

/-!
# Arrays

Cells in rows and columns. The arrays that are kept in the store, those of matrices, colours
and shapes, hold doubles. An array that a conversion is given may as well hold numbers in single
precision, integers of 64 bits or truth values. No datum is a complex number, and so no cell is one.
-/

namespace SceneBridge

/-! ## Rows and columns -/

/-- Cells in rows and columns, the last index running fastest. -/
structure Grid (α : Type) where
  shape : List Nat
  cells : List α
deriving Repr, Inhabited

/-- Numbers in rows and columns, as they are kept in the store. -/
abbrev NumArray : Type := Grid Float

namespace Grid

variable {α β : Type}

/-- The number of cells. -/
def size (a : Grid α) : Nat :=
  a.cells.length

/-- The array with a function applied to each cell. -/
def map (f : α → β) (a : Grid α) : Grid β :=
  ⟨a.shape, a.cells.map f⟩

/-- How many cells an array of a shape has. -/
def cellCount : List Nat → Nat
  | [] => 1
  | n :: shape => n * cellCount shape

/-- The cells of the rows of an array with `n` rows of a shape. -/
def rows (n : Nat) (shape : List Nat) (cells : List α) : List (List α) :=
  (List.range n).map fun i => (cells.drop (i * cellCount shape)).take (cellCount shape)

variable [Inhabited α]

/-- The cells of an array of a shape with the order of its indices reversed. -/
def reversedCells : List Nat → List α → List α
  | [], cells => cells
  | n :: shape, cells =>
    let columns := (rows n shape cells).map (reversedCells shape)
    (List.range (cellCount shape)).flatMap fun i => columns.map (·.getD i default)

/-- The array with the order of its indices reversed. -/
def transposed (a : Grid α) : Grid α :=
  ⟨a.shape.reverse, reversedCells a.shape a.cells⟩

/-- The cells of an array of a shape with its last two indices exchanged. -/
def exchangedCells : List Nat → List α → List α
  | n :: m :: l :: shape, cells =>
    (rows n (m :: l :: shape) cells).flatMap (exchangedCells (m :: l :: shape))
  | shape, cells => reversedCells shape cells

/-- The array with its last two indices exchanged, if it has two. -/
def exchanged? (a : Grid α) : Option (Grid α) :=
  match a.shape.reverse with
  | m :: n :: shape => some ⟨(n :: m :: shape).reverse, exchangedCells a.shape a.cells⟩
  | _ => none

end Grid

/-! ## Cells -/

/-- What a cell of an array holds. All cells of an array are of one kind; an array without cells
is one of doubles. -/
inductive ArrayCell where
  | real (x : Float)
  /-- A number kept in single precision. -/
  | single (x : Float)
  /-- An integer of 64 bits. -/
  | whole (n : Int64)
  /-- A truth value, which is no integer. -/
  | flag (b : Bool)
deriving Repr, Inhabited

namespace ArrayCell

open Number

/-- The number that a cell counts as. -/
def quantity : ArrayCell → Quantity
  | real x | single x => .real x
  | whole n => .whole n.toInt
  | flag b => .whole (if b then 1 else 0)

/-- The double nearest to the number of a cell. -/
def toFloat (c : ArrayCell) : Float :=
  match c.quantity with
  | .real x => x
  | .whole n => (ofInt? n).getD infinity

/-- Where doubles are asked for, as in an answer, cells are shown as the nearest ones. -/
instance : Coe (List ArrayCell) (List Float) := ⟨List.map toFloat⟩

/-- Zero, as a cell of the same kind. -/
def zero : ArrayCell → ArrayCell
  | real _ => real 0
  | single _ => single 0
  | whole _ => whole 0
  | flag _ => flag false

/-- The number of bytes that a cell takes. -/
def byteCount : ArrayCell → Nat
  | real _ | whole _ => 8
  | single _ => 4
  | flag _ => 1

/-- Do two cells count as the same number? Unless both are integers or truth values, they are
compared as doubles. -/
def equal (a b : ArrayCell) : Bool :=
  match a.quantity, b.quantity with
  | .whole m, .whole n => m == n
  | _, _ => a.toFloat == b.toFloat

end ArrayCell

end SceneBridge
