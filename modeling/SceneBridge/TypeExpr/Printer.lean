import SceneBridge.Text.Cut
import SceneBridge.Text.Quoted
import SceneBridge.TypeExpr.Basic

/-!
# Writing type expressions

The text of a type, in the form that the grammar reads: `Array.<T>` for lists, a
bar between alternatives, parameters in angle brackets, record fields in braces.
Alternatives are never put in parentheses.
-/

namespace SceneBridge.TypeExpr

mutual

/-- The text of a type. -/
def chars : TypeExpr → List Char
  | .scalar name => name.toList
  | .array element => "Array.<".toList ++ chars element ++ ['>']
  | .union as => charsOfAll ['|'] as
  | .generic name params => name.toList ++ '<' :: charsOfAll [',', ' '] params ++ ['>']
  | .record fields => '\x7b' :: charsOfFields fields ++ ['\x7d']

/-- The texts of some types with `sep` between them. -/
def charsOfAll (sep : List Char) : List TypeExpr → List Char
  | [] => []
  | [t] => chars t
  | t :: u :: ts => chars t ++ sep ++ charsOfAll sep (u :: ts)

/-- The texts of some fields with commas between them. -/
def charsOfFields : List (String × TypeExpr) → List Char
  | [] => []
  | [(k, t)] => k.toList ++ ':' :: ' ' :: chars t
  | (k, t) :: f :: fs => k.toList ++ ':' :: ' ' :: chars t ++ ',' :: ' ' :: charsOfFields (f :: fs)

end

@[simp]
theorem chars_scalar (name : String) : chars (.scalar name) = name.toList := rfl

@[simp]
theorem chars_array (element : TypeExpr) :
    chars (.array element) = "Array.<".toList ++ chars element ++ ['>'] := rfl

@[simp]
theorem chars_union (as : List TypeExpr) : chars (.union as) = charsOfAll ['|'] as := rfl

@[simp]
theorem chars_generic (name : String) (params : List TypeExpr) :
    chars (.generic name params) =
      name.toList ++ '<' :: charsOfAll [',', ' '] params ++ ['>'] := rfl

@[simp]
theorem chars_record (fields : List (String × TypeExpr)) :
    chars (.record fields) = '\x7b' :: charsOfFields fields ++ ['\x7d'] := rfl

/-- The text of a type. -/
def format (t : TypeExpr) : String :=
  String.ofList t.chars

/-! ## The structure of a type, spelled out -/

mutual

/-- The structure of a type as a text that names every part. -/
def spelled : TypeExpr → String
  | .scalar name => "Scalar(name=" ++ Text.quotedText name ++ ")"
  | .array element => "ArrayOf(element=" ++ spelled element ++ ")"
  | .union as => "Union(alternatives=" ++ spelledTuple as ++ ")"
  | .generic name params =>
    "Generic(name=" ++ Text.quotedText name ++ ", params=" ++ spelledTuple params ++ ")"
  | .record fields => "ObjectOf(fields=\x7b" ++ Text.join ", " (spelledFields fields) ++ "\x7d)"

/-- Some types in parentheses; a single one is followed by a comma. -/
def spelledTuple : List TypeExpr → String
  | [] => "()"
  | [t] => "(" ++ spelled t ++ ",)"
  | t :: u :: ts => "(" ++ spelled t ++ spelledRest (u :: ts) ++ ")"

/-- Some types, a comma before each. -/
def spelledRest : List TypeExpr → String
  | [] => ""
  | t :: ts => ", " ++ spelled t ++ spelledRest ts

/-- Record fields, each a quoted name and a type. -/
def spelledFields : List (String × TypeExpr) → List String
  | [] => []
  | (k, t) :: fs => (Text.quotedText k ++ ": " ++ spelled t) :: spelledFields fs

end

end SceneBridge.TypeExpr
