import SceneBridge.Datum.Basic

/-!
# Views of classes

What reflection sees of a class: its documentation, the members of its body, its
annotations, its table of notes on members, and the notes that stand behind
assignments. Values of any kind `V` may be kept in a class.
-/

namespace SceneBridge

/-- What stands behind the colon of a declaration. -/
inductive Annotation where
  | text (s : String)
  /-- A class. -/
  | named (className : String)
  /-- Anything else. -/
  | other
deriving Repr, Inhabited

namespace Annotation

/-- The type that an annotation stands for, texts being read by `read`. -/
def type? (read : String → TypeExpr) : Annotation → Option TypeExpr
  | text s => some (read s)
  | named c => some (.scalar c)
  | other => none

end Annotation

/-- The parameters that a caller can name, and the result. -/
structure RoutineView where
  params : List (String × Option Annotation)
  returns : Option Annotation
deriving Inhabited

/-- What a name in the body of a class stands for. -/
inductive MemberView (V : Type) where
  /-- A computed property. -/
  | accessor (hasGetter hasSetter : Bool) (doc : Option String)
  | routine (view : RoutineView) (doc : Option String)
  /-- A place for an attribute of every instance. -/
  | slot
  /-- A routine that belongs to the class and not to its instances. -/
  | shared (value : V)
  /-- A value, with the kind of value that it is. -/
  | constant (kind : String) (value : V)

/-- What reflection sees of a class. -/
structure ClassView (V : Type) where
  doc : Option String
  members : List (String × MemberView V)
  annotations : List (String × Annotation)
  /-- What the class says about members in its own table. -/
  table : List (String × Datum)
  /-- The notes behind assignments. -/
  notes : List (String × String)

/-- An attribute of an instance: a routine, or a value of some kind. -/
inductive AttributeView where
  | routine (view : RoutineView)
  | value (kind : String)

/-- What is reflected: a class with those that it inherits from, the nearest first, and the
attributes of an instance. -/
structure Subject (V : Type) where
  classes : List (ClassView V)
  attributes : List (String × AttributeView)

end SceneBridge
