import SceneBridge.Number.Binary
import SceneBridge.TypeExpr.Basic

/-!
# Values

What an attribute, a variable or a list can hold. Numbers, texts and types are values
by themselves; lists, records and all objects are kept in a store, and a value only
says where.
-/

namespace SceneBridge

/-! ## Classes -/

/-- The classes of the library. -/
inductive LibraryClass where
  -- plain data
  | list | record | view | array | bundle | product
  -- numeric values
  | components | vector | vector2 | vector3 | vector4 | euler | quaternion
  | matrix | matrix3 | matrix4 | color
  -- events and nodes
  | sceneEvent | dispatcher | node | group | scene | mesh
  | camera | perspective | orthographic
  | light | ambient | directional | point | spot
  -- shapes and surfaces
  | geometry | box | plane | sphere | cylinder
  | material | basic | standard | phong
  -- registries and conversion
  | registry | constructorTable | constructor | converter
  -- reflection
  | cache | metadata | propertyInfo | methodInfo | computedInfo | eventInfo | staticInfo
  -- elements and adapters
  | factory | definition | binding | elementEvent | element | recorder | adapter | component
deriving DecidableEq, Repr, Inhabited

/-- A class: one of the library, or one that a script describes. -/
inductive ClassId where
  | library (c : LibraryClass)
  | custom (index : Nat)
deriving DecidableEq, Repr, Inhabited

/-! ## Values -/

mutual

/-- A value. -/
inductive Value where
  | null
  | bool (b : Bool)
  | int (n : Int)
  | float (x : Float)
  /-- A number kept in single precision. -/
  | single (x : Float)
  /-- A truth value of array arithmetic. -/
  | flag (b : Bool)
  | text (s : String)
  | tuple (items : List Value)
  | type (t : TypeExpr)
  /-- An opaque object, one for each name. -/
  | token (name : String)
  | classRef (c : ClassId)
  /-- The object at a place in the store. -/
  | object (place : Nat)
  | callable (c : Callable)

/-- What can be called besides classes. -/
inductive Callable where
  /-- The routine of a class under a name, with the object that it is called on. -/
  | method (receiver : Value) (owner : ClassId) (name : String)
  /-- The routine of a class under a name. -/
  | routine (owner : ClassId) (name : String)
  /-- A callback of a script. -/
  | listener (id : String)
  /-- A factory of a script that records its arguments. -/
  | recorder (tag : String)
  /-- A method of the target of an adapter. -/
  | forwarder (adapter : Nat) (name : String)
  /-- What dispatches an event of the target of an adapter. -/
  | bridge (adapter : Nat) (event : String)
  /-- What registers its argument under a name. -/
  | registering (registry : Nat) (name : Value)
  /-- What registers the constructor of a class. -/
  | constructing (registry : Nat) (name layout factory : Value)
  /-- A routine made for an attribute of an object. -/
  | attached (object : Nat) (params : List String) (serial : Nat)

end

instance : Inhabited Value := ⟨.null⟩

/-! ## Equality -/

mutual

/-- Are two values equal, as far as can be told without the store? Objects are at one place, and
numbers are compared as numbers are. -/
def Value.same : Value → Value → Bool
  | .null, .null => true
  | .bool a, .bool b => a == b
  | .int a, .int b => a == b
  | .float a, .float b => a == b
  | .single a, .single b => a == b
  | .flag a, .flag b => a == b
  | .text a, .text b => a == b
  | .tuple as, .tuple bs => Value.sameAll as bs
  | .type a, .type b => a.same b
  | .token a, .token b => a == b
  | .classRef a, .classRef b => a == b
  | .object a, .object b => a == b
  | .callable a, .callable b => Callable.same a b
  | _, _ => false

/-- Are two lists of values equal, place by place? -/
def Value.sameAll : List Value → List Value → Bool
  | [], [] => true
  | a :: as, b :: bs => Value.same a b && Value.sameAll as bs
  | _, _ => false

/-- Are two callables equal? -/
def Callable.same : Callable → Callable → Bool
  | .method r c n, .method r' c' n' => Value.same r r' && c == c' && n == n'
  | .routine c n, .routine c' n' => c == c' && n == n'
  | .listener a, .listener b => a == b
  | .recorder a, .recorder b => a == b
  | .forwarder a n, .forwarder a' n' => a == a' && n == n'
  | .bridge a e, .bridge a' e' => a == a' && e == e'
  | .registering r n, .registering r' n' => r == r' && Value.same n n'
  | .constructing r n l f, .constructing r' n' l' f' =>
    r == r' && Value.same n n' && Value.same l l' && Value.same f f'
  | .attached o _ k, .attached o' _ k' => o == o' && k == k'
  | _, _ => false

end

instance : BEq Value := ⟨Value.same⟩

/-- Is the callable kept where it was made, so that there is only one of what it is made of? -/
def Callable.isSingle : Callable → Bool
  | .method .. | .registering .. | .constructing .. => false
  | _ => true

/-- Is there only one object of what the value is made of? Of numbers, texts and what is put together
of values there may be several. -/
def Value.isSingle : Value → Bool
  | .null | .bool _ | .flag _ | .token _ | .classRef _ | .object _ => true
  | .callable c => c.isSingle
  | _ => false

/-- Is the value nothing? -/
def Value.isNull : Value → Bool
  | .null => true
  | _ => false

end SceneBridge
