import SceneBridge.Element.Batch
import SceneBridge.Object.Items

/-!
# Elements as objects

What elements do when they are called on as objects. Hooks, and the steps from setting
a property to asking for an update, go through the members of the object, so a class
can replace them.
-/

namespace SceneBridge

open Text

namespace Act

/-- The element at a place. -/
def elementAt (calls : Calls) (place : Nat) : Element Act Value Value where
  state := elementOf place
  nothing := .null
  differs := differs
  setProperty name v := discard (calls.send (.object place) "set_property" [.text name, v])
  requestUpdate name old := discard (calls.send (.object place) "request_update" [.text name, old])
  update changed := do discard (calls.send (.object place) "update" [← newRecord changed])
  firstUpdated changed := do
    discard (calls.send (.object place) "first_updated" [← newRecord changed])
  updated changed := do discard (calls.send (.object place) "updated" [← newRecord changed])
  notify subscriber names := do discard (calls.call subscriber [← newList (names.map .text)] [])

/-- A name in small letters. -/
def smallName (v : Value) : Act String := do
  match v with
  | .text s => return smallText s
  | v => fail (.noAttribute (← typeName v) "lower")

/-- How many whole rounds come before a number is reached. -/
def rounds (v : Value) : Act Nat := do
  match (← see v).quantity? with
  | some (.whole n) => return n.toNat
  | some (.real x) =>
    match Number.truncate? x with
    | some n => return (if Float.ofInt n < x then n + 1 else n).toNat
    | none => return if x > 0 then Nat.pow 2 32 else 0
  | none => fail (.basic .type "'<' not supported between instances")

end Act

open Act

namespace ElementOperation

/-- Sends an event to the listeners of an element. -/
def dispatchEvent (i : Invocation) (event : Value) : Act Value := do
  i.calls.setMember event "target" i.self
  let type ← key (← i.calls.member event "type")
  announce (do return (← (elementOf i.place).get).listeners) type fun l =>
    discard (i.calls.call l [event] [])
  return event

/-- Writes the changes that a hook was told of to the log. An update runs the steps that
the element was made with. -/
def logChanges (i : Invocation) (called : String) : Act Unit := do
  match ← body (i.arg "changed") with
  | .record es | .view es =>
    log (.hook called (← es.mapM fun (k, v) => do return (k, ← see v)))
  | _ => fail (.noAttribute (← typeName (i.arg "changed")) "items")
  if called == "update" then
    if let .element _ steps ← body i.self then
      steps.forM fun s => do
        for answer in ← i.calls.run [s] do
          log (.step answer)

/-- What an operation does. -/
def run (op : ElementOperation) (i : Invocation) : Act Value := do
  let e := elementAt i.calls i.place
  let name := i.arg "name"
  match op with
  | .makeEvent =>
    i.calls.setMembers i.self (["type", "detail", "target", "bubbles"].map fun n => (n, i.arg n))
    return .null
  | .make =>
    e.state.set .empty
    return .null
  | .declare =>
    let attr ← match i.arg "attribute" with
      | .bool true => pure (some (← smallName name))
      | v => if ← truth v then pure (some (smallText (← plain v))) else pure none
    e.state.modify (·.declare (← plain name) attr)
    return .null
  | .declared => return .tuple ((← e.state.get).declared.map fun (n, _) => .text n)
  | .property => e.property (← plain name)
  | .setProperty =>
    e.storeProperty (← plain name) (i.arg "value")
    return .null
  | .requestUpdate =>
    if !name.isNull then e.recordChange (← plain name) (i.arg "old_value")
    return .null
  | .isPending => return .bool (← e.state.get).isPending
  | .hasUpdated => return .bool (← e.state.get).hasUpdated
  | .performUpdate => return .bool (← e.performUpdate)
  | .flush => return .int (← e.flush (← rounds (i.arg "max_rounds")))
  | .complete => return .bool (← e.complete)
  | .hook => return .null
  | .connected =>
    e.state.modify ({ · with isConnected := true })
    return .null
  | .disconnected =>
    e.state.modify ({ · with isConnected := false })
    return .null
  | .isConnected => return .bool (← e.state.get).isConnected
  | .setAttribute =>
    let attr ← smallName name
    let text ← plain (i.arg "value")
    e.setAttribute attr text (.text text)
    return .null
  | .attribute_ =>
    return (((← e.state.get).attributes.lookup (← smallName name)).map Value.text).getD .null
  | .hasAttribute => return .bool (Entries.has (← e.state.get).attributes (← smallName name))
  | .removeAttribute =>
    e.removeAttribute (← smallName name)
    return .null
  | .addListener =>
    let event ← key (i.arg "event_type")
    e.state.modify fun s => { s with listeners := s.listeners.append event (i.arg "listener") }
    return .null
  | .removeListener =>
    let event ← key (i.arg "event_type")
    e.state.modify fun s => { s with listeners := s.listeners.removeFirst event (i.arg "listener") }
    return .null
  | .dispatch =>
    match i.arg "event" with
    | .text type =>
      let made ← i.calls.call (.classRef (.library .elementEvent)) []
        [("type", .text type), ("detail", i.arg "detail")]
      dispatchEvent i made
    | event => dispatchEvent i event
  | .subscribe =>
    e.state.modify fun s => { s with subscribers := s.subscribers ++ [i.arg "listener"] }
    return .null
  | .unsubscribe =>
    e.state.modify fun s => { s with subscribers := s.subscribers.erase (i.arg "listener") }
    return .null
  | .logHook called =>
    logChanges i called
    return .null

end ElementOperation

end SceneBridge
