import SceneBridge.Datum.Basic

/-!
# Truth of data

Nothing, zero, and whatever is empty count as no; everything else as yes.
-/

namespace SceneBridge.Datum

/-- Does a datum count as yes? An array of several cells has no answer. -/
def truth? : Datum → Option Bool
  | null => some false
  | bool b | flag b => some b
  | int n => some (n != 0)
  | float x | single x => some (x != 0)
  | text s => some !s.isEmpty
  | list ds | tuple ds => some !ds.isEmpty
  | record es => some !es.isEmpty
  | array a =>
    match a.cells with
    | [] => some false
    | [c] => some (c.toFloat != 0)
    | _ => none
  | _ => some true

end SceneBridge.Datum
