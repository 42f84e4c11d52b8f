import SceneBridge.Fault

/-!
# Members of data

What can be read from a datum by name: the attributes of a bundle, the components of
a numeric value and how they are kept, the parts of a type. Operations are members too;
they are shown as functions. What all objects have, such as their class, is left out, and so is
what depends on where a datum is kept, such as the array that another one is a part of.
-/

namespace SceneBridge

/-- The cells of a matrix by rows, from its elements by columns. -/
def ValueKind.rows (kind : ValueKind) (parts : List Float) : List Float :=
  let n := kind.order
  (List.range (n * n)).map fun i => parts.getD (i % n * n + i / n) 0

/-- The names of the operations of a kind of numeric value. -/
def ValueKind.operations (kind : ValueKind) : List String :=
  let shared := ["to_array", "set", "copy", "clone"]
  let vector := shared ++ ["add", "sub", "multiply_scalar", "dot", "length", "normalize"]
  let matrix := ["from_array", "to_array", "identity", "multiply", "determinant"]
  match kind with
  | .vector2 | .vector4 => vector
  | .vector3 => vector ++ ["cross", "apply_euler", "apply_matrix4"]
  | .euler => "rotation_matrix" :: shared
  | .quaternion => "from_euler" :: shared
  | .matrix3 => matrix
  | .matrix4 => matrix ++ ["compose", "translation"]
  | .color => ["set", "get_hex", "get_hex_string", "to_array"]

namespace Datum

/-- How a numeric value keeps its numbers. -/
def keptMember? (kind : ValueKind) (parts : List Float) (name : String) : Option Datum :=
  if kind.isMatrix then
    match name with
    | "elements" => some (.array ⟨[kind.order, kind.order], (kind.rows parts).map .real⟩)
    | "_order" => some (.int kind.order)
    | _ => none
  else if kind == .color then
    if name == "rgb" then some (.array ⟨[3], parts.map .real⟩) else none
  else
    match name with
    | "_data" => some (.array ⟨[parts.length], parts.map .real⟩)
    | "_size" => some (.int kind.size)
    | "_names" => some (.tuple (kind.componentNames.map .text))
    | _ => none

/-- The members of a numeric value. -/
def valueMember? (kind : ValueKind) (parts : List Float) (name : String) : Option Datum :=
  match kind.componentNames.zip parts |>.lookup name with
  | some x => some (.float x)
  | none => if kind.operations.contains name then some .function else keptMember? kind parts name

/-- The parts of a type expression. -/
def typeMember? (t : TypeExpr) (name : String) : Option Datum :=
  match t, name with
  | .scalar n, "name" => some (.text n)
  | .array e, "element" => some (.type e)
  | .union as, "alternatives" => some (.tuple (as.map .type))
  | .generic n _, "name" => some (.text n)
  | .generic _ ps, "params" => some (.tuple (ps.map .type))
  | .record fs, "fields" => some (.record (fs.map fun (k, t) => (k, .type t)))
  | _, _ => none

/-- The operations of a list. -/
def listOperations : List String :=
  ["append", "clear", "copy", "count", "extend", "index", "insert", "pop", "remove", "reverse", "sort"]

/-- The operations of an array. -/
def arrayOperations : List String :=
  ["all", "any", "argmax", "argmin", "argpartition", "argsort", "astype", "byteswap", "choose", "clip",
    "compress", "conj", "conjugate", "copy", "cumprod", "cumsum", "diagonal", "dot", "dump", "dumps",
    "fill", "flatten", "getfield", "item", "max", "mean", "min", "nonzero", "partition", "prod", "put",
    "ravel", "repeat", "reshape", "resize", "round", "searchsorted", "setfield", "setflags", "sort",
    "squeeze", "std", "sum", "swapaxes", "take", "to_device", "tobytes", "tofile", "tolist", "trace",
    "transpose", "var", "view"]

/-- The operations of an integer. -/
def wholeOperations : List String :=
  ["as_integer_ratio", "bit_count", "bit_length", "conjugate", "from_bytes", "is_integer", "to_bytes"]

/-- The operations of a double. -/
def realOperations : List String :=
  ["as_integer_ratio", "conjugate", "fromhex", "hex", "is_integer"]

/-- The parts of an integer as a number and as a fraction, and its operations. -/
def wholeMember? (n : Int) (name : String) : Option Datum :=
  match name with
  | "real" | "numerator" => some (.int n)
  | "imag" => some (.int 0)
  | "denominator" => some (.int 1)
  | _ => if wholeOperations.contains name then some .function else none

/-- The member of a datum by name. -/
def member? (d : Datum) (name : String) : Option Datum :=
  match d with
  | bundle fields => fields.lookup name
  | value _ kind parts => valueMember? kind parts name
  | type t => typeMember? t name
  | list _ => if listOperations.contains name then some function else none
  | tuple _ => if name == "count" || name == "index" then some function else none
  | array a =>
    match name with
    | "shape" => some (.tuple (a.shape.map fun (n : Nat) => .int n))
    | "size" => some (.int a.size)
    | "ndim" => some (.int a.shape.length)
    | "T" => some (.array a.transposed)
    | "mT" => a.exchanged?.map .array
    | "real" => some (.array a)
    | "imag" => some (.array (a.map ArrayCell.zero))
    | "itemsize" => some (.int (a.cells.headD default).byteCount)
    | "nbytes" => some (.int ((a.cells.headD default).byteCount * a.size))
    | _ => if arrayOperations.contains name then some function else none
  | bool b => wholeMember? (if b then 1 else 0) name
  | int n => wholeMember? n name
  | float x =>
    match name with
    | "real" => some (.float x)
    | "imag" => some (.float 0)
    | _ => if realOperations.contains name then some function else none
  | token n => if name == "__name__" then some (.text n) else none
  | _ => none

/-- Reads a member of a datum by name. Arrays without two indices have no indices to exchange. -/
def readMember (d : Datum) (name : String) : Except Fault (Option Datum) :=
  match d, name with
  | array a, "mT" =>
    if a.shape.length < 2 then .error .notMatrix else .ok (d.member? name)
  | _, _ => .ok (d.member? name)

end Datum

end SceneBridge
