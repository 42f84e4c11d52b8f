import SceneBridge.Object.Items

/-!
# Registries as objects

What registries do when they are called on as objects. An entry that is nothing counts
as no entry, and registering the same object again changes nothing.
-/

namespace SceneBridge.RegistryOperation

open Act

/-- Registers an object under a name, or under the name that it has itself. -/
def registerAs (calls : Calls) (registry : Nat) (name obj : Value) : Act Value := do
  let name ← if ← truth name then pure name else calls.member obj "__name__"
  discard (calls.send (.object registry) "add" [name, obj])
  return obj

/-- Is the present entry another one than the object? -/
def clashes (w : World) (obj old : Value) : Bool :=
  !old.isNull && !w.isOne old obj

/-- What an operation does. -/
def run (op : RegistryOperation) (i : Invocation) : Act Value := do
  let cell := registryOf i.place
  let r ← cell.get
  match op with
  | .make =>
    cell.set .empty
    return .null
  | .add =>
    let obj := i.arg "obj"
    cell.set (← ofExcept (r.add (clashes (← getThe World) obj) (← see (i.arg "name")) obj))
    return obj
  | .register => return .callable (.registering i.place (i.arg "name"))
  | .get => ofExcept (r.get (← see (i.arg "name")))
  | .lookup => return (r.lookup? (← see (i.arg "name"))).getD .null
  | .keys => newList (r.keys.map .text)
  | .has => return .bool (!(← i.calls.send i.self "lookup" [i.arg "name"]).isNull)
  | .remove =>
    cell.set (← ofExcept (r.remove (← see (i.arg "name"))))
    return .null
  | .clear =>
    cell.set .empty
    return .null
  | .values => newList r.values
  | .copy => newRecord r.entries

end SceneBridge.RegistryOperation
