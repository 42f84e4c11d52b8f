import SceneBridge.Adapter.Objects
import SceneBridge.Registry.Objects
import SceneBridge.Event.Source
import SceneBridge.Scene.Cameras
import SceneBridge.Scene.Geometries
import SceneBridge.Scene.Materials

/-!
# Operations on objects

What every operation of the library does, by the kind of object that it works on.
-/

namespace SceneBridge.Operation

/-- What an operation does. -/
def run (op : Operation) (i : Invocation) : Act Value :=
  match op with
  | .vector op => op.run i
  | .matrix op => op.run i
  | .colour op => op.run i
  | .event op => op.run i
  | .node op => op.run i
  | .camera op => op.run i
  | .geometry op => op.run i
  | .material op => op.run i
  | .registry op => op.run i
  | .constructor op => op.run i
  | .reflection op => op.run i
  | .element op => op.run i
  | .adapter op => op.run i

end SceneBridge.Operation
