import SceneBridge.Datum.Grid
import SceneBridge.TypeExpr.Basic

/-!
# Data

A datum is a value as far as it can be seen: numbers, texts, lists and records
with their contents, the numeric values of a scene with their components, and
other objects by their identity. Conversions work on data, and every answer is one.
-/

namespace SceneBridge

/-! ## Numeric values -/

/-- The kinds of numeric values that have a constructor by name. -/
inductive ValueKind where
  | vector2
  | vector3
  | vector4
  | euler
  | quaternion
  | matrix3
  | matrix4
  | color
deriving Repr, DecidableEq, Inhabited

namespace ValueKind

/-- The name of the kind. -/
def name : ValueKind → String
  | vector2 => "Vector2"
  | vector3 => "Vector3"
  | vector4 => "Vector4"
  | euler => "Euler"
  | quaternion => "Quaternion"
  | matrix3 => "Matrix3"
  | matrix4 => "Matrix4"
  | color => "Color"

/-- All kinds, in the order in which they are registered. -/
def all : List ValueKind :=
  [vector2, vector3, vector4, euler, quaternion, matrix3, matrix4, color]

/-- The names of the components that can be read one by one. -/
def componentNames : ValueKind → List String
  | vector2 => ["x", "y"]
  | vector3 | euler => ["x", "y", "z"]
  | vector4 | quaternion => ["x", "y", "z", "w"]
  | matrix3 | matrix4 => []
  | color => ["r", "g", "b"]

/-- Rows of a matrix kind. -/
def order : ValueKind → Nat
  | matrix3 => 3
  | matrix4 => 4
  | _ => 0

/-- Is the kind a kind of matrix? -/
def isMatrix : ValueKind → Bool
  | matrix3 | matrix4 => true
  | _ => false

/-- How many numbers a value of the kind holds. -/
def size : ValueKind → Nat
  | vector2 => 2
  | vector3 | euler | color => 3
  | vector4 | quaternion => 4
  | matrix3 => 9
  | matrix4 => 16

end ValueKind

/-! ## Data -/

/-- Which object a datum stands for. -/
structure Identity where
  className : String
  /-- Where the object is kept; objects at different places are different. -/
  place : Nat
  /-- The script variable that holds the object, if one does. -/
  label : Option String
deriving Repr, Inhabited

/-- An object of which only its class is known. -/
def Identity.ofClass (className : String) : Identity :=
  ⟨className, 0, none⟩

/-- Objects that are shown by what they are for. -/
inductive Role where
  /-- An adapter definition for the class. -/
  | definition
  /-- An adapter over an object of the class. -/
  | adapter
  /-- The metadata of the class. -/
  | metadata
  /-- Any other object of the class. -/
  | plain
deriving Repr, DecidableEq

/-- A value with its contents. -/
inductive Datum where
  | null
  | bool (b : Bool)
  | int (n : Int)
  | float (x : Float)
  /-- A number kept in single precision. -/
  | single (x : Float)
  /-- A truth value of array arithmetic, which is no integer. -/
  | flag (b : Bool)
  | text (s : String)
  | list (items : List Datum)
  | tuple (items : List Datum)
  | record (entries : List (String × Datum))
  | array (a : Grid ArrayCell)
  /-- A numeric value of a scene; matrices by columns. -/
  | value (who : Identity) (kind : ValueKind) (parts : List Float)
  /-- An object that is nothing but its attributes. -/
  | bundle (fields : List (String × Datum))
  | type (t : TypeExpr)
  | token (name : String)
  /-- What a recording factory returned for its arguments. -/
  | product (tag : String) (args : List Datum)
  | sceneEvent (type target : Datum) (data : List (String × Datum))
  | elementEvent (type detail target : Datum) (bubbles : Datum)
  | constructor (name : String) (layout : String) (valueClass : Option String)
  | component (tag : String) (className : String)
  | classRef (name : String) (home : String)
  | function
  /-- An object with its written form. -/
  | object (who : Identity) (role : Role) (written : String)
deriving Repr, Inhabited

/-- The entry of a record under a key. -/
def Datum.entry? (entries : List (String × Datum)) (key : String) : Option Datum :=
  entries.lookup key

end SceneBridge
