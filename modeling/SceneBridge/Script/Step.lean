import SceneBridge.Datum.Basic

/-!
# Scripts

A script builds objects and works on them step by step. Its values are written as
literals: plain data, new objects, classes, callbacks, and references to the results
of earlier steps.
-/

namespace SceneBridge

/-- A variable and the attributes read from it one after the other. -/
structure Path where
  variable_ : String
  attributes : List String
deriving Repr, Inhabited

mutual

/-- A value as a script writes it. -/
inductive Literal where
  | null
  | bool (b : Bool)
  | int (n : Int)
  | float (x : Float)
  | single (x : Float)
  | flag (b : Bool)
  | text (s : String)
  | list (items : List Literal)
  | tuple (items : List Literal)
  | record (entries : List (String × Literal))
  | array (a : NumArray)
  | bundle (fields : List (String × Literal))
  /-- A new object of the class. -/
  | new (className : String) (args : List Literal)
  | classRef (className : String)
  | type (t : TypeExpr)
  /-- An opaque object, one for each name. -/
  | token (name : String)
  /-- A function that records its arguments, one for each tag. -/
  | recorder (tag : String)
  /-- A new event of an element. -/
  | event (type : Literal) (detail : Literal)
  | ref (path : Path)
  /-- A callback, one for each name: it logs its argument, runs steps, and may fail. -/
  | listener (id : String) (steps : List Step) (fails : Bool)

/-- A step: what it does, and the variable that holds its result. -/
inductive Step where
  | mk (action : Action) (bind : Option String)

/-- What a step does. -/
inductive Action where
  /-- Makes an object; a recording element runs `onUpdate` while it updates. -/
  | new (className : String) (args : List Literal) (named : List (String × Literal))
    (onUpdate : List Step)
  | call (on : Path) (name : String) (args : List Literal) (named : List (String × Literal))
  | get (on : Path) (name : String)
  | set (on : Path) (name : String) (value : Literal)
  | getItem (on : Path) (key : Literal)
  | setItem (on : Path) (key value : Literal)
  | length (on : Path)
  | truth (on : Path)
  | items (on : Path)
  | quote (on : Path)
  | plain (on : Path)
  | contains (on : Path) (item : Literal)
  | equal (a b : Literal)
  | identical (a b : Literal)
  | value (on : Path)
  | names (on : Path)
  /-- Calls a function of the library. -/
  | apply (name : String) (args : List Literal) (named : List (String × Literal))
  /-- Sets a text of the environment and loads the settings again. -/
  | setEnvironment (name value : String)
  | describe (on : Path)
  | state (on : Path)

end

instance : Inhabited Literal := ⟨.null⟩

instance : Inhabited Action := ⟨.names default⟩

instance : Inhabited Step := ⟨.mk default none⟩

end SceneBridge
