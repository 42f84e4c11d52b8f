import SceneBridge.Values.Colour

/-!
# Building numeric values

The parts of a vector, a rotation, a matrix or a colour from data. Missing
components are zero, and the last component of a quaternion is one. Matrices are
read from a list of their elements, column by column.
-/

namespace SceneBridge

/-! ## Lists of numbers -/

/-- The shape of a list of parts: equal shapes, one dimension more. -/
def stackShapes (shapes : List (List Nat)) : Except Fault (List Nat) :=
  match shapes with
  | [] => .ok [0]
  | s :: ss =>
    if ss.all (· == s) then .ok (shapes.length :: s)
    else
      .error (.basic .value ("setting an array element with a sequence. The requested array has " ++
        "an inhomogeneous shape after 1 dimensions. The detected shape was (" ++
        toString shapes.length ++ ",) + inhomogeneous part."))

mutual

/-- The shape of the array that a datum stands for. -/
def Datum.arrayShape : Datum → Except Fault (List Nat)
  | .array a => .ok a.shape
  | .list ds => do stackShapes (← Datum.arrayShapes ds)
  | .tuple ds => do stackShapes (← Datum.arrayShapes ds)
  | .value _ kind parts => .ok (if kind.isMatrix || kind == .color then [] else [parts.length])
  | _ => .ok []

/-- The shapes of the arrays that some data stand for. -/
def Datum.arrayShapes : List Datum → Except Fault (List (List Nat))
  | [] => .ok []
  | d :: ds => do return (← Datum.arrayShape d) :: (← Datum.arrayShapes ds)

end

mutual

/-- The cells of the array that a datum stands for. Nothing counts as not a number. -/
def Datum.arrayCells : Datum → Except Fault (List Float)
  | .array a => .ok (a.cells.map ArrayCell.toFloat)
  | .null => .ok [Number.notANumber]
  | .list ds => Datum.arraysCells ds
  | .tuple ds => Datum.arraysCells ds
  | .value who kind parts =>
    if kind.isMatrix || kind == .color then .error (.notReal who.className) else .ok parts
  | d => do return [← d.toFloat]

/-- The cells of the arrays that some data stand for, one after another. -/
def Datum.arraysCells : List Datum → Except Fault (List Float)
  | [] => .ok []
  | d :: ds => do return (← Datum.arrayCells d) ++ (← Datum.arraysCells ds)

end

/-- The array that a datum stands for. Its shape is found before any number is read. -/
def Datum.toArray (d : Datum) : Except Fault NumArray := do
  let shape ← d.arrayShape
  return ⟨shape, ← d.arrayCells⟩

/-! ## Parts of values -/

namespace ValueKind

/-- The parts of a value of the kind that is made of nothing. -/
def blank : ValueKind → List Float
  | .quaternion => [0, 0, 0, 1]
  | .color => [1, 1, 1]
  | .matrix3 => [1, 0, 0, 0, 1, 0, 0, 0, 1]
  | .matrix4 => [1, 0, 0, 0, 0, 1, 0, 0, 0, 0, 1, 0, 0, 0, 0, 1]
  | kind => List.replicate kind.size 0

/-- The parts of a vector or a rotation with the given components. -/
def ofComponents (kind : ValueKind) (className : String) (args : List Datum) :
    Except Fault (List Float) :=
  if args.length > kind.size then
    if kind == .quaternion then
      .error (.basic .type ("Quaternion.__init__() takes from 1 to 5 positional arguments but " ++
        toString (args.length + 1) ++ " were given"))
    else
      .error (.componentCount className kind.size args.length)
  else do
    let parts ← args.mapM Datum.toFloat
    return parts ++ kind.blank.drop parts.length

/-- The parts of a matrix whose elements are listed column by column. -/
def ofElements (kind : ValueKind) (className : String) (elements : Datum) :
    Except Fault (List Float) := do
  let a ← elements.toArray
  if a.size != kind.size then .error (.elementCount className kind.size a.size)
  else return a.cells

/-- The parts of a value of the kind made by its constructor. -/
def construct (kind : ValueKind) (args : List Datum) : Except Fault (List Float) :=
  match kind with
  | .color => Colour.make args
  | .matrix3 | .matrix4 =>
    match args with
    | [elements] => kind.ofElements kind.name elements
    | [] => .error (.basic .type
        "_Matrix.from_array() missing 1 required positional argument: 'values'")
    | args => .error (.basic .type
        ("_Matrix.from_array() takes 2 positional arguments but " ++ toString (args.length + 1) ++
          " were given"))
  | kind => kind.ofComponents kind.name args

end ValueKind

end SceneBridge
