import SceneBridge.Number.Binary

/-!
# Shapes

The positions of the vertices of shapes, vertex by vertex, in single precision.
-/

namespace SceneBridge.Shape

open Number

/-! ## Even spacing -/

/-- `n + 1` numbers in even steps from one number to another. -/
def spaced (start stop : Float) (n : Nat) : List Float :=
  let delta := stop - start
  let step := delta / n.toFloat
  (List.range (n + 1)).map fun i =>
    if i == n && n > 0 then stop
    else if step == 0 then i.toFloat / n.toFloat * delta + start
    else i.toFloat * step + start

/-- `n` numbers in even steps from zero up to a number that is left out. -/
def spacedOpen (stop : Float) (n : Nat) : List Float :=
  let step := stop / n.toFloat
  (List.range n).map fun i => i.toFloat * step + 0

/-- Half a turn. -/
def pi : Float := 3.141592653589793

/-! ## Positions -/

/-- The corners of a box. -/
def box (width height depth : Float) : List Float :=
  let half := [width, height, depth].map fun s => toSingle (toSingle s / 2)
  let signs : List Float := [-1, 1]
  signs.flatMap fun x => signs.flatMap fun y => signs.flatMap fun z =>
    ([x, y, z].zipWith (· * ·) half).map toSingle

/-- A grid in the plane, row by row from the top. -/
def plane (width height : Float) (columns rows : Nat) : List Float :=
  let xs := (spaced (-width / 2) (width / 2) columns).map toSingle
  let ys := (spaced (height / 2) (-height / 2) rows).map toSingle
  ys.flatMap fun y => xs.flatMap fun x => [x, y, 0]

/-- A grid of longitudes and latitudes, from one pole to the other. -/
def sphere (radius : Float) (columns rows : Nat) : List Float :=
  let phi := spaced 0 (2 * pi) columns
  let theta := spaced 0 pi rows
  theta.flatMap fun t => phi.flatMap fun f =>
    [-radius * f.cos * t.sin, radius * t.cos, radius * f.sin * t.sin].map toSingle

/-- One ring of a cylinder. -/
def ring (radius y : Float) (n : Nat) : List Float :=
  (spacedOpen (2 * pi) n).flatMap fun a => [radius * a.sin, y, radius * a.cos].map toSingle

/-- The ring at the top and the ring at the bottom. -/
def cylinder (top bottom height : Float) (n : Nat) : List Float :=
  let half := height / 2
  ring top half n ++ ring bottom (-half) n

/-! ## Bounds -/

/-- The points of a list of coordinates. -/
def points : List Float → List (Float × Float × Float)
  | x :: y :: z :: rest => (x, y, z) :: points rest
  | _ => []

/-- The lesser of two numbers; what is not a number wins. -/
def lesser (a b : Float) : Float :=
  if a.isNaN then a else if b.isNaN then b else if b < a then b else a

/-- The greater of two numbers; what is not a number wins. -/
def greater (a b : Float) : Float :=
  if a.isNaN then a else if b.isNaN then b else if a < b then b else a

/-- The least and the greatest coordinates of some points. -/
def bounds (cells : List Float) : Option (List Float × List Float) :=
  match points cells with
  | [] => none
  | (x, y, z) :: ps =>
    let fold (f : Float → Float → Float) : List Float :=
      [ps.foldl (fun a p => f a p.1) x, ps.foldl (fun a p => f a p.2.1) y,
        ps.foldl (fun a p => f a p.2.2) z]
    some (fold lesser, fold greater)

end SceneBridge.Shape
