import SceneBridge.Datum.Basic
import SceneBridge.Number.Style
import SceneBridge.Text.Blank
import SceneBridge.Text.Cut
import SceneBridge.Text.Quoted
import SceneBridge.TypeExpr.Printer

/-!
# Writing data

A datum has a quoted form, which messages use, and a plain form, which is the same
but for texts and for numbers of array arithmetic.
-/

namespace SceneBridge.Datum

open Text Number

/-! ## Arrays -/

/-- A text with blanks in front of it, if it takes less than `width` columns. -/
def alignRight (width : Nat) (text : String) : String :=
  "".pushn ' ' (width - text.length) ++ text

/-- The text of a cell that is no floating number. -/
def exactText? : ArrayCell → Option String
  | .whole n => some (toString n.toInt)
  | .flag b => some (if b then "True" else "False")
  | _ => none

/-- The finite number that a cell holds. -/
def cellBinary? : ArrayCell → Option Binary
  | .single x => Binary.ofSingle? x
  | c => Binary.ofFloat? c.toFloat

/-- Floating cells of an array in one common format: padded so that their points stand
under one another, with an exponent if their sizes are very large, small or different. -/
def floatTexts (cells : List ArrayCell) : List String :=
  let finite := cells.filterMap cellBinary?
  let sizes := (cells.map ArrayCell.toFloat |>.filter Float.isFinite).map Float.abs |>.filter (· != 0)
  let greatest := sizes.foldl max 0
  let least := sizes.foldl min greatest
  -- Numbers in single precision are compared in single precision.
  let exact (x : Float) : Float := if cells.any (· matches .single _) then toSingle x else x
  let scientific := greatest >= 1e8 ||
    (!sizes.isEmpty && (least < exact 1e-4 || exact (greatest / least) > 1000))
  let digitsOf (b : Binary) : List Char × Int :=
    if b.mantissa == 0 then (['0'], 0)
    else
      let d := if scientific then b.shortest else b.shortestPlaces 8
      let d := if scientific && (toString d.digits).length > 9 then b.significant 9 else d
      let ds := (toString d.digits).toList
      (ds, d.exponent + ds.length - 1)
  let exponentWidth := (finite.map fun b => (toString (digitsOf b).2.natAbs).length).foldl max 2
  let partsOf (b : Binary) : String × String × String :=
    let (ds, e) := digitsOf b
    let sign := if b.negative then "-" else ""
    if scientific then
      (sign ++ String.ofList (ds.take 1), String.ofList (ds.drop 1), exponentText exponentWidth e)
    else
      let text := positionalText true ds e
      match cutAt? '.' text.toList with
      | some (w, f) => (sign ++ String.ofList w, String.ofList (if f == ['0'] then [] else f), "")
      | none => (sign ++ text, "", "")
  let parts := finite.map partsOf
  let left := (parts.map fun p => p.1.length).foldl max 0
  let right := (parts.map fun p => p.2.1.length).foldl max 0
  let tail := (parts.map fun p => p.2.2.length).foldl max 0
  let others := cells.map ArrayCell.toFloat |>.filter (fun x => !x.isFinite) |>.map
    (nonFiniteText · |>.length)
  let width := (others.foldl max 0).max (left + 1 + right + tail)
  cells.map fun c =>
    match cellBinary? c with
    | none => alignRight width (nonFiniteText c.toFloat)
    | some b =>
      let (w, f, e) := partsOf b
      let body := w ++ "." ++ if scientific then f.pushn '0' (right - f.length) ++ e
        else f.pushn ' ' (right - f.length)
      "".pushn ' ' (width - (left + 1 + right + tail) + (left - w.length)) ++ body

/-- The cells of an array of a shape in one common format. -/
def cellTexts (shape : List Nat) (cells : List ArrayCell) : List String :=
  match cells.mapM exactText? with
  | none => floatTexts cells
  | some texts =>
    -- Truth values take as much room as the longer one, except where they stand alone.
    let least := if !shape.isEmpty && cells.all (· matches .flag _) then 5 else 0
    texts.map (alignRight ((texts.map String.length).foldl max least))

/-- The words in lines of at most `width` columns, all but the first line `indent` columns to
the right. A blank and `sep` stand between words; blanks at the end of a line are left out. -/
def wrapTexts (sep : String) (width indent : Nat) (words : List String) : String :=
  let (lines, line, _) := words.foldl (fun (lines, line, between) word =>
    let full := line ++ between
    if full.length + indent + word.length > width && !full.isEmpty then
      (lines ++ String.ofList (trimRightBy (· == ' ') full.toList) ++ "\n" ++ "".pushn ' ' indent,
        word, sep ++ " ")
    else (lines, full ++ word, sep ++ " ")) ("", "", "")
  lines ++ line

/-- The rows of an array of the given shape, nested in brackets, in lines of at most `width`
columns. Rows of rows are put under one another, `indent` columns to the right. -/
def nestTexts (sep : String) (width indent : Nat) : List Nat → List String → String
  | [], cells => cells.headD ""
  | [_], cells => "[" ++ wrapTexts sep (width - 1) (indent + 1) cells ++ "]"
  | n :: shape, cells =>
    let rowSize := shape.foldl (· * ·) 1
    let rows := (List.range n).map fun i =>
      nestTexts sep (width - 1) (indent + 1) shape ((cells.drop (i * rowSize)).take rowSize)
    "[" ++ join (sep ++ "".pushn '\n' shape.length ++ "".pushn ' ' (indent + 1)) rows ++ "]"

/-- The quoted form of an array. Only that numbers are kept in single precision is named, on a
line of its own if the last line has no room for it. -/
def quotedArray (a : Grid ArrayCell) : String :=
  if a.cells.isEmpty then
    if a.shape == [0] then "array([], dtype=float64)"
    else "array([], shape=(" ++ join ", " (a.shape.map toString) ++ "), dtype=float64)"
  else
    let shown := "array(" ++ nestTexts "," 74 6 a.shape (cellTexts a.shape a.cells)
    if a.cells.any (· matches .single _) then
      let kind := "dtype=float32)"
      let last := (shown.toList.reverse.takeWhile (· != '\n')).length
      shown ++ "," ++ (if last + 2 + kind.length > 75 then "\n      " else " ") ++ kind
    else shown ++ ")"

/-- The plain form of an array. -/
def plainArray (a : Grid ArrayCell) : String :=
  match a.shape, a.cells with
  | [], [.single x] => Style.exact.writeSingle x
  | [], [.real x] => Style.exact.write x
  | shape, cells => if cells.isEmpty then "[]" else nestTexts "" 75 0 shape (cellTexts shape cells)

/-! ## Numeric values -/

/-- A colour channel as a number from 0 to 255; halves go to the even number. A channel
that is not a number has none. -/
def channelByte? (x : Float) : Option Nat :=
  let clipped := if x < 0 then 0 else if x > 1 then 1 else x
  (roundEven? (clipped * 255)).map Int.toNat

/-- The channels of a colour as one number, red in front. -/
def colourCode? : List Float → Option Nat
  | [r, g, b] => do
    return (← channelByte? r) * 65536 + (← channelByte? g) * 256 + (← channelByte? b)
  | _ => none

/-- A colour number as six digits. -/
def colourDigits (code : Nat) : String :=
  String.ofList (hexDigits 6 code)

/-- The written form of a numeric value. -/
def quotedValue (className : String) (kind : ValueKind) (parts : List Float) : String :=
  match kind with
  | .color =>
    match colourCode? parts with
    | some code => className ++ "(#" ++ colourDigits code ++ ")"
    | none => className ++ "(nan)"
  | .matrix3 | .matrix4 =>
    className ++ "([" ++ join ", " (parts.map Style.exact.write) ++ "])"
  | _ =>
    let fields := kind.componentNames.zip parts
    className ++ "(" ++ join ", " (fields.map fun (n, x) => n ++ "=" ++ (Style.general 6).write x) ++ ")"

/-! ## Data -/

/-- Items in parentheses; a single one is followed by a comma. -/
def tupleText : List String → String
  | [t] => "(" ++ t ++ ",)"
  | ts => "(" ++ join ", " ts ++ ")"

mutual

/-- The quoted form of a datum. -/
def quote : Datum → String
  | null => "None"
  | bool b => if b then "True" else "False"
  | int n => toString n
  | float x => Style.exact.write x
  | single x => "np.float32(" ++ Style.exact.writeSingle x ++ ")"
  | flag b => if b then "np.True_" else "np.False_"
  | text s => quotedText s
  | list items => "[" ++ join ", " (quoteAll items) ++ "]"
  | tuple items => tupleText (quoteAll items)
  | record entries => "\x7b" ++ join ", " (quoteEntries entries) ++ "\x7d"
  | array a => quotedArray a
  | value who kind parts => quotedValue who.className kind parts
  | bundle fields => "namespace(" ++ join ", " (quoteFields fields) ++ ")"
  | type t => t.spelled
  | token name => name
  | product tag args => tag ++ tupleText (quoteAll args)
  | sceneEvent t target data =>
    "SceneEvent(type=" ++ quote t ++ ", target=" ++ quote target ++ ", data=\x7b" ++
      join ", " (quoteEntries data) ++ "\x7d)"
  | elementEvent t detail target bubbles =>
    "ElementEvent(type=" ++ quote t ++ ", detail=" ++ quote detail ++ ", target=" ++
      quote target ++ ", bubbles=" ++ quote bubbles ++ ")"
  | constructor name layout _ =>
    "TypeConstructor(name=" ++ quotedText name ++ ", layout=" ++ quotedText layout ++ ")"
  | component tag className => "Component(tag=" ++ quotedText tag ++ ", " ++ className ++ ")"
  | classRef name home =>
    "<class '" ++ (if home.isEmpty then name else home ++ "." ++ name) ++ "'>"
  | function => "<function>"
  | object _ _ written => written

/-- The quoted forms of some data. -/
def quoteAll : List Datum → List String
  | [] => []
  | d :: ds => quote d :: quoteAll ds

/-- The entries of a record: a quoted key and a quoted value each. -/
def quoteEntries : List (String × Datum) → List String
  | [] => []
  | (k, d) :: es => (quotedText k ++ ": " ++ quote d) :: quoteEntries es

/-- Attributes: a name and a quoted value each. -/
def quoteFields : List (String × Datum) → List String
  | [] => []
  | (k, d) :: es => (k ++ "=" ++ quote d) :: quoteFields es

end

mutual

/-- Has a datum a written form? A colour with a channel that is not a number has none, nor has
an integer of more digits than are written. -/
def isWritable : Datum → Bool
  | int n => n.natAbs < Nat.pow 10 4300
  | value _ .color parts => (colourCode? parts).isSome
  | list ds | tuple ds | product _ ds => areWritable ds
  | record es | bundle es => areEntriesWritable es
  | sceneEvent t g es => isWritable t && isWritable g && areEntriesWritable es
  | elementEvent t d g b => isWritable t && isWritable d && isWritable g && isWritable b
  | _ => true

/-- Have all of some data a written form? -/
def areWritable : List Datum → Bool
  | [] => true
  | d :: ds => isWritable d && areWritable ds

/-- Have all values of some entries a written form? -/
def areEntriesWritable : List (String × Datum) → Bool
  | [] => true
  | (_, d) :: es => isWritable d && areEntriesWritable es

end

/-- The plain form of a datum. -/
def plain : Datum → String
  | text s => s
  | single x => Style.exact.writeSingle x
  | flag b => if b then "True" else "False"
  | array a => plainArray a
  | d => d.quote

end SceneBridge.Datum
