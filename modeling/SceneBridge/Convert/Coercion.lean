import SceneBridge.Fault
import SceneBridge.Number.Numeral
import SceneBridge.Text.Letter
import SceneBridge.Datum.Equal

/-!
# Coercions

What numbers, truth values and texts are made of, and how a text or a list is taken
apart into numeric components. A coercion refuses what it does not understand.
-/

namespace SceneBridge

open Text Number

/-! ## Truth values -/

/-- The words that stand for yes. -/
def trueWords : List String := ["true", "t", "yes", "y", "on", "1"]

/-- The words that stand for no. -/
def falseWords : List String := ["false", "f", "no", "n", "off", "0", ""]

/-- The truth value that a text stands for. -/
def readBool? (text : String) : Option Bool :=
  let word := smallText (trimText text)
  if trueWords.contains word then some true
  else if falseWords.contains word then some false
  else none

namespace Datum

/-- The datum of a number. -/
def ofQuantity : Quantity → Datum
  | .whole n => .int n
  | .real x => .float x

/-- The truth value of a datum: numbers but zero are true, texts are words for one. -/
def toBool (d : Datum) : Except Fault Bool :=
  match d with
  | .bool b | .flag b => .ok b
  | .int n => .ok (n != 0)
  | .float x | .single x => .ok (x != 0)
  | .text s =>
    match readBool? s with
    | some b => .ok b
    | none => .error (.notBoolean d)
  | _ => .error (.about .notBoolean d)

/-! ## Numbers -/

/-- The number of a datum. Truth values count as zero and one. -/
def toNumber (d : Datum) : Except Fault Quantity :=
  match d with
  | .bool b | .flag b => .ok (.whole (if b then 1 else 0))
  | .int n => .ok (.whole n)
  | .float x | .single x => .ok (.real x)
  | .text s =>
    match readQuantity? s.toList with
    | some q => .ok q
    | none => .error (.notNumber d)
  | _ => .error (.about .notNumber d)

end Datum

/-- A number as a double. Integers beyond the largest double have none. -/
def Number.Quantity.toFloat : Quantity → Except Fault Float
  | .whole n =>
    match ofInt? n with
    | some x => .ok x
    | none => .error .intTooLarge
  | .real x => .ok x

/-- The integer part of a number. -/
def Number.Quantity.toInt : Quantity → Except Fault Int
  | .whole n => .ok n
  | .real x =>
    match truncate? x with
    | some n => .ok n
    | none => .error (if x.isNaN then .nanInt else .infiniteInt)

/-! ## Components -/

/-- The texts between commas, without blanks around them. A blank text has none. -/
def splitComponents (text : List Char) : List (List Char) :=
  match (splitOn ',' text).map trim with
  | [[]] => []
  | parts => parts

/-- The numbers in a text, a list or an array. -/
def Datum.components (d : Datum) : Except Fault (List Quantity) :=
  match d with
  | .text s => (splitComponents s.toList).mapM fun p => Datum.toNumber (.text (String.ofList p))
  | .array a => .ok (a.cells.map ArrayCell.quantity)
  | .list ds | .tuple ds => ds.mapM Datum.toNumber
  | _ => .error (.about .notSplittable d)

/-- The parts of a text of values: split at commas outside of brackets and quotes. Where
brackets do not match, every comma separates. A blank text has no parts. -/
def splitValues (text : List Char) (budget : Option Nat) : List (List Char) :=
  if (trim text).isEmpty then []
  else
    match Brackets.split (· == ',') budget text with
    | .ok parts => parts.map trim
    | .error _ => (splitOnAtMost ',' budget text).map trim

/-! ## Doubles -/

/-- The name of the kind of a datum. -/
def Datum.typeName : Datum → String
  | .null => "NoneType"
  | .bool _ => "bool"
  | .int _ => "int"
  | .float _ => "float"
  | .single _ => "numpy.float32"
  | .flag _ => "numpy.bool"
  | .text _ => "str"
  | .list _ => "list"
  | .tuple _ => "tuple"
  | .record _ => "dict"
  | .array _ => "numpy.ndarray"
  | .value who _ _ => who.className
  | .bundle _ => "types.SimpleNamespace"
  | .type (.scalar _) => "Scalar"
  | .type (.array _) => "ArrayOf"
  | .type (.union _) => "Union"
  | .type (.generic _ _) => "Generic"
  | .type (.record _) => "ObjectOf"
  | .token _ => "Token"
  | .product _ _ => "Record"
  | .sceneEvent _ _ _ => "SceneEvent"
  | .elementEvent _ _ _ _ => "ElementEvent"
  | .constructor _ _ _ => "TypeConstructor"
  | .component _ _ => "Component"
  | .classRef _ _ => "type"
  | .function => "function"
  | .object who _ _ => who.className

/-- The double that a datum is worth where a component is asked for. Texts are read. -/
def Datum.toFloat (d : Datum) : Except Fault Float :=
  match d with
  | .bool b | .flag b => .ok (if b then 1 else 0)
  | .int n => Quantity.toFloat (.whole n)
  | .float x | .single x => .ok x
  | .text s =>
    match readFloat? s.toList with
    | some x => .ok x
    | none => .error (.floatText s)
  | .array a =>
    match a.cells with
    | [c] => .ok c.toFloat
    | _ => .error (.basic .type "only length-1 arrays can be converted to scalars")
  | d => .error (.notReal d.typeName)

/-- The integer that a datum is worth where a count is asked for. Texts are read. -/
def Datum.toInt (d : Datum) : Except Fault Int :=
  match d with
  | .bool b | .flag b => .ok (if b then 1 else 0)
  | .int n => .ok n
  | .float x | .single x => Quantity.toInt (.real x)
  | .text s =>
    match readInt? s.toList with
    | some n => .ok n
    | none => .error (.basic .value
        ("invalid literal for int() with base 10: " ++ quotedText s))
  | .array a =>
    match a.cells with
    | [c] => c.quantity.toInt
    | _ => .error (.basic .type "only length-1 arrays can be converted to scalars")
  | d => .error (.basic .type ("int() argument must be a string, a bytes-like object or a real number, not '"
      ++ d.typeName ++ "'"))

end SceneBridge
