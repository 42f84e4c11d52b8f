import SceneBridge.Datum.Basic

/-!
# Vectors and matrices

Arithmetic on lists of components, and on square matrices whose cells are listed row
by row.
-/

namespace SceneBridge

/-! ## Vectors -/

namespace Vector

/-- Component by component. -/
def combine (f : Float → Float → Float) (a b : List Float) : List Float :=
  a.zipWith f b

/-- All components times a number. -/
def scale (s : Float) (a : List Float) : List Float :=
  a.map (· * s)

/-- The sum of the products of components. -/
def dot (a b : List Float) : Float :=
  (combine (· * ·) a b).foldl (· + ·) 0

/-- The length of a vector. -/
def norm (a : List Float) : Float :=
  (dot a a).sqrt

/-- The vector with length one, if it has a length. -/
def normalized (a : List Float) : List Float :=
  let n := norm a
  if n > 0 then a.map (· / n) else a

/-- The cross product in three dimensions; the second vector may lie in the plane. -/
def cross? (a b : List Float) : Option (List Float) :=
  match a, b with
  | [a0, a1, a2], [b0, b1, b2] => some [a1 * b2 - a2 * b1, a2 * b0 - a0 * b2, a0 * b1 - a1 * b0]
  | [a0, a1, a2], [b0, b1] => some [-(a2 * b1), a2 * b0, a0 * b1 - a1 * b0]
  | _, _ => none

end Vector

/-! ## Matrices -/

namespace Matrix

/-- The matrix of an order with one in the diagonal and zero elsewhere. -/
def identity (n : Nat) : List Float :=
  (List.range (n * n)).map fun i => if i / n == i % n then 1 else 0

/-- Cells in rows of length `n`. -/
def inRows (n count : Nat) (cells : List Float) : List (List Float) :=
  (List.range count).map fun i => (cells.drop (i * n)).take n

/-- The rows of a matrix. -/
def rows (n : Nat) (cells : List Float) : List (List Float) :=
  inRows n n cells

/-- The cells read column by column instead of row by row, and the other way round. -/
def transpose (n : Nat) (cells : List Float) : List Float :=
  (List.range (n * n)).map fun i => cells.getD (i % n * n + i / n) 0

/-- The product of two matrices. -/
def multiply (n : Nat) (a b : List Float) : List Float :=
  let columns := rows n (transpose n b)
  (rows n a).flatMap fun r => columns.map (Vector.dot r)

/-- A matrix times a vector. -/
def apply (n : Nat) (a : List Float) (v : List Float) : List Float :=
  (rows n a).map fun r => Vector.dot r v

/-- The row with the entry of greatest size in the first column, and the other rows. -/
def choosePivot : List (List Float) → Option (List Float × List (List Float) × Bool)
  | [] => none
  | r :: rs =>
    match choosePivot rs with
    | none => some (r, [], false)
    | some (p, _, _) =>
      if (p.headD 0).abs > (r.headD 0).abs then
        -- The first row takes the place of the chosen one.
        some (p, swapIn r p rs, true)
      else some (r, rs, false)
where
  /-- The rows with `r` in the place of the first row with the leading entry of `p`. -/
  swapIn (r p : List Float) : List (List Float) → List (List Float)
    | [] => []
    | q :: qs => if (q.headD 0).abs == (p.headD 0).abs then r :: qs else q :: swapIn r p qs

/-- The determinant of some rows, by elimination below the greatest entries. -/
def determinantOf (n : Nat) (rs : List (List Float)) : Float :=
  match n with
  | 0 => 1
  | k + 1 =>
    match choosePivot rs with
    | none => 1
    | some (p, others, swapped) =>
      let d := p.headD 0
      if d == 0 then 0
      else
        let rest := others.map fun r =>
          let factor := r.headD 0 / d
          (r.drop 1).zipWith (fun x y => x - factor * y) (p.drop 1)
        (if swapped then -d else d) * determinantOf k rest

/-- The determinant of a matrix. -/
def determinant (n : Nat) (cells : List Float) : Float :=
  determinantOf n (rows n cells)

/-- The rotation about the first axis, then the second, then the third. -/
def ofTurns (x y z : Float) : List Float :=
  let rx := [1, 0, 0, 0, x.cos, -x.sin, 0, x.sin, x.cos]
  let ry := [y.cos, 0, y.sin, 0, 1, 0, -y.sin, 0, y.cos]
  let rz := [z.cos, -z.sin, 0, z.sin, z.cos, 0, 0, 0, 1]
  multiply 3 (multiply 3 rz ry) rx

/-- The transformation that scales, then rotates, then moves. -/
def compose (turn : List Float) (scale position : List Float) : List Float :=
  let rotated := (rows 3 turn).map fun r => Vector.combine (· * ·) r scale
  (rotated.zipWith (fun r p => r ++ [p]) position).flatten ++ [0, 0, 0, 1]

/-- The last column but for its last cell: where a transformation moves the origin. -/
def translation (cells : List Float) : List Float :=
  [cells.getD 3 0, cells.getD 7 0, cells.getD 11 0]

/-- A point moved by a transformation. -/
def applyToPoint (cells : List Float) (v : List Float) : List Float :=
  match apply 4 cells (v ++ [1]) with
  | [x, y, z, w] => if w != 0 then [x / w, y / w, z / w] else [x, y, z]
  | r => r

end Matrix

/-- The components of the quaternion of a rotation about the three axes. -/
def quaternionOfTurns (x y z : Float) : List Float :=
  let (hx, hy, hz) := (0.5 * x, 0.5 * y, 0.5 * z)
  let (c1, c2, c3) := (hx.cos, hy.cos, hz.cos)
  let (s1, s2, s3) := (hx.sin, hy.sin, hz.sin)
  [s1 * c2 * c3 - c1 * s2 * s3, c1 * s2 * c3 + s1 * c2 * s3, c1 * c2 * s3 - s1 * s2 * c3,
    c1 * c2 * c3 + s1 * s2 * s3]

end SceneBridge
