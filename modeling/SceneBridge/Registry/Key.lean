import SceneBridge.Fault
import SceneBridge.Text.Blank
import SceneBridge.Text.Letter

/-!
# Registry keys

A registry finds an entry under every spelling of its name: capitals or underscores
between words, hyphens, blanks around it. All spellings have one key, in small
letters with underscores.
-/

namespace SceneBridge.Registry

open Text

/-- A capital letter of the plain alphabet. -/
def isPlainCapital (c : Char) : Bool :=
  'A' ≤ c && c ≤ 'Z'

/-- A small letter of the plain alphabet. -/
def isPlainSmall (c : Char) : Bool :=
  'a' ≤ c && c ≤ 'z'

/-- Puts an underscore in front of a capital that small letters follow, unless it starts
a line or comes right after a word found before. -/
def breakWords : List Char → List Char
  | a :: b :: c :: cs =>
    if a != '\n' && isPlainCapital b && isPlainSmall c then
      a :: '_' :: b :: c :: cs.takeWhile isPlainSmall ++ breakWords (cs.dropWhile isPlainSmall)
    else
      a :: breakWords (b :: c :: cs)
  | cs => cs
termination_by cs => cs.length
decreasing_by
  · have := (List.dropWhile_suffix (l := cs) isPlainSmall).length_le
    simp only [List.length_cons]
    omega
  · simp

/-- Puts an underscore between a small letter or a digit and a capital. -/
def breakCapitals : List Char → List Char
  | a :: b :: cs =>
    if (isPlainSmall a || a.isDigit) && isPlainCapital b then
      a :: '_' :: b :: breakCapitals cs
    else
      a :: breakCapitals (b :: cs)
  | cs => cs

/-- A name of capitalised words in small letters, with underscores between the words. -/
def snake (cs : List Char) : List Char :=
  small (breakCapitals (breakWords cs))

/-- The key of a name that is not blank. -/
def keyOf (name : List Char) : List Char :=
  let name := (trim name).map fun c => if c == '-' then '_' else c
  if name.any isCapital then snake name else small name

/-- The key of a name. -/
def key (name : String) : Except Fault String :=
  if (trim name.toList).isEmpty then .error .keyBlank
  else .ok (String.ofList (keyOf name.toList))

/-- The key of a datum; only texts have keys. -/
def keyOfDatum : Datum → Except Fault String
  | .text name => key name
  | _ => .error .keyNotText

end SceneBridge.Registry
