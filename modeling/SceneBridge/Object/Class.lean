import SceneBridge.Object.Operation
import SceneBridge.Object.Value
import SceneBridge.Reflect.ClassView
import SceneBridge.Script.Step

/-!
# Classes

A class has a name, an order of inheritance, and members by name: computed properties,
routines, and values. A routine says which parameters it takes, and is either an
operation of the library or written as a list of statements.
-/

namespace SceneBridge

/-! ## Parameters -/

/-- How an argument reaches a parameter. -/
inductive ParamKind where
  | plain
  /-- By name only. -/
  | named
  /-- All further arguments. -/
  | rest
  /-- All further named arguments. -/
  | namedRest
deriving DecidableEq, Repr, Inhabited

/-- A parameter. -/
structure Param where
  name : String
  kind : ParamKind
  hint : Option Annotation
  default : Option Value
deriving Inhabited

namespace Param

/-- A parameter that needs an argument. -/
def needed (name : String) : Param := ⟨name, .plain, none, none⟩

/-- A parameter that has a value without an argument. -/
def optional (name : String) (default : Value) : Param := ⟨name, .plain, none, some default⟩

/-- A parameter that takes all further arguments. -/
def rest (name : String) : Param := ⟨name, .rest, none, none⟩

/-- A parameter that takes all further named arguments. -/
def namedRest (name : String) : Param := ⟨name, .namedRest, none, none⟩

/-- The parameter with the text of an annotation. -/
def noted (p : Param) (text : String) : Param :=
  { p with hint := some (.text text) }

/-- The parameter, reached by name only. -/
def byName (p : Param) : Param := { p with kind := .named }

/-- The parameters of a list as it is written: one star takes all further arguments, two take
all further named ones, and what comes after a star is reached by name only. -/
def ofWritten : List (String × Option Annotation × Option Value) → List Param
  | [] => []
  | (name, hint, default) :: ps =>
    if name.startsWith "**" then
      ⟨(name.drop 2).toString, .namedRest, hint, none⟩ :: ofWritten ps
    else if name == "*" then (ofWritten ps).map afterStar
    else if name.startsWith "*" then
      ⟨(name.drop 1).toString, .rest, hint, none⟩ :: (ofWritten ps).map afterStar
    else ⟨name, .plain, hint, default⟩ :: ofWritten ps
where
  /-- A parameter behind a star. -/
  afterStar (p : Param) : Param :=
    if p.kind = .plain then p.byName else p

/-- The parameters of a list of names. -/
def ofNames (names : List String) : List Param :=
  ofWritten (names.map fun n => (n, none, none))

end Param

/-! ## Routines -/

/-- What is assigned in the body of a routine. -/
inductive Source where
  | param (name : String)
  | yes
deriving Repr, Inhabited

/-- A statement of a routine that a script describes. -/
inductive Statement where
  | assign (field : String) (source : Source)
  | emit (event : String) (params : List String)
  | fail (text : String)
  | returnSelf
  /-- A new object of the same class. -/
  | returnNew
  | returnParam (name : String)
  | returnValue (value : Literal)
deriving Inhabited

/-- What an attribute is set to when an object is made. -/
inductive FieldValue where
  | literal (value : Literal)
  /-- A routine that does nothing. -/
  | routine (params : List String)
deriving Inhabited

/-- What a routine does. -/
inductive Code where
  | operation (op : Operation)
  | statements (body : List Statement)
  /-- Reads an attribute. -/
  | readField (name : String)
  /-- Writes an attribute, as a number if asked. -/
  | writeField (name : String) (asNumber : Bool)
  /-- Makes an object, by the classes inherited from first if there are any named ones, then
  fails or sets attributes. -/
  | construct (hasBases : Bool) (failure : Option String) (fields : List (List String × FieldValue))
deriving Inhabited

/-- A routine. Its parameters do not include the object that it is called on. -/
structure Routine where
  params : List Param
  returns : Option Annotation
  code : Code
  doc : Option String
deriving Inhabited

/-- Whom a routine is called on. -/
inductive CalledOn where
  | class_
  | nobody
deriving DecidableEq, Repr, Inhabited

/-- A member of a class. -/
inductive Member where
  | accessor (getter setter : Option Code) (doc : Option String)
  | routine (r : Routine)
  /-- A routine that is not called on instances. -/
  | shared (on : CalledOn) (r : Routine)
  | constant (value : Value)
deriving Inhabited

namespace Member

/-- An operation as a routine. -/
def ofOperation (op : Operation) (params : List Param) (returns doc : Option String) : Member :=
  .routine ⟨params, returns.map .text, .operation op, doc⟩

/-- An operation called on the class. -/
def ofClassOperation (op : Operation) (params : List Param) : Member :=
  .shared .class_ ⟨params, none, .operation op, none⟩

/-- A computed property that can be read. -/
def reader (op : Operation) (doc : Option String) : Member :=
  .accessor (some (.operation op)) none doc

/-- A computed property that can be read and written. -/
def property (get set : Operation) (doc : Option String) : Member :=
  .accessor (some (.operation get)) (some (.operation set)) doc

end Member

/-! ## Classes -/

/-- A class. -/
structure ClassInfo where
  name : String
  /-- Where the class is defined. -/
  home : String
  /-- The class itself and all classes that it inherits from, the nearest first. -/
  order : List ClassId
  doc : Option String
  members : List (String × Member)
  annotations : List (String × Annotation)
  /-- What the class says about members in its own table. -/
  table : List (String × Datum)
  /-- The notes behind assignments. -/
  notes : List (String × String)
  /-- The attributes that instances have places for, if the class names them. -/
  slots : Option (List String)
  /-- How an object is made. -/
  init : Option Routine
deriving Inhabited

namespace ClassInfo

/-- A class of the library without members. -/
def named (name home : String) (order : List LibraryClass) : ClassInfo :=
  ⟨name, home, order.map .library, none, [], [], [], [], none, none⟩

end ClassInfo

end SceneBridge
