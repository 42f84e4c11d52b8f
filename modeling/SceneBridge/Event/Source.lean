import SceneBridge.Object.Items

/-!
# Sources of events

Objects that others listen to. An event carries its type, its source, and data; it is
handed to all who were listening when it was raised.
-/

namespace SceneBridge.EventOperation

open Act

/-- Raises an event of an object. -/
def raise (i : Invocation) (event : Value) (data : List (String × Value)) : Act Value := do
  let e ← newPlain .sceneEvent [("type", event), ("target", i.self), ("data", ← newRecord data)]
  announce (listenersOf i.place).get (← key event) fun l => discard (i.calls.call l [e] [])
  return e

/-- What an operation does. -/
def run (op : EventOperation) (i : Invocation) : Act Value := do
  match op with
  | .makeEvent =>
    i.calls.setMember i.self "type" (i.arg "type")
    i.calls.setMember i.self "target" (i.arg "target")
    let data ← if (i.arg "data").isNull then newRecord [] else pure (i.arg "data")
    i.calls.setMember i.self "data" data
    return .null
  | .make =>
    (listenersOf i.place).set .empty
    return .null
  | .on =>
    let event ← key (i.arg "event_type")
    (listenersOf i.place).modify (·.on event (i.arg "listener"))
    return .null
  | .off =>
    let event ← key (i.arg "event_type")
    (listenersOf i.place).modify (·.off event (i.arg "listener"))
    return .null
  | .has =>
    let event ← key (i.arg "event_type")
    return .bool ((← (listenersOf i.place).get).has event (i.arg "listener"))
  | .emit => raise i (i.arg "event_type") i.args.named

end SceneBridge.EventOperation
