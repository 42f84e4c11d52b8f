import SceneBridge.Convert.Coercion

/-!
# Colours

A colour has three channels from 0 to 1. It is written as a number with one byte per
channel, as six or three hexadecimal digits, by name, or by its channels.
-/

namespace SceneBridge.Colour

open Text Number

/-- The names of colours. -/
def named : List (String × Nat) := [
  ("black", 0x000000),
  ("white", 0xFFFFFF),
  ("red", 0xFF0000),
  ("green", 0x008000),
  ("lime", 0x00FF00),
  ("blue", 0x0000FF),
  ("yellow", 0xFFFF00),
  ("cyan", 0x00FFFF),
  ("magenta", 0xFF00FF),
  ("gray", 0x808080),
  ("grey", 0x808080),
  ("orange", 0xFFA500)]

/-! ## Bytes -/

/-- A byte as a channel. -/
def channel (byte : Int) : Float :=
  let x := nearest false byte.natAbs 1
  (if byte < 0 then -x else x) / 255

/-- The channels of a colour number. Only the last three bytes count. -/
def ofCode (code : Int) : List Float :=
  let n := (code % 16777216).toNat
  [channel (n / 65536), channel (n / 256 % 256), channel (n % 256)]

/-! ## Texts -/

/-- The value of a hexadecimal digit. -/
def digit? (c : Char) : Option Nat :=
  if c.isDigit then some (c.toNat - 48)
  else
    let l := c.toLower
    if 'a' ≤ l && l ≤ 'f' then some (l.toNat - 87) else none

/-- The number that hexadecimal digits stand for, a sign and blanks around it allowed. -/
def readByte? (cs : List Char) : Option Int := do
  let (negative, ds) := takeSign (numeralChars cs)
  if ds.isEmpty then none
  else
    let values ← ds.mapM digit?
    let n : Int := (values.foldl (fun n d => 16 * n + d) 0 : Nat)
    return if negative then -n else n

/-- A colour text without the mark in front of its digits. -/
def dropMark (t : List Char) : List Char :=
  match t with
  | '#' :: r => r
  | '0' :: 'x' :: r => r
  | '0' :: 'X' :: r => r
  | t => t

/-- The channels of a text of hexadecimal digits. -/
def ofHex (text : List Char) : Except Fault (List Float) :=
  let t := dropMark (trim text)
  let t := if t.length == 3 then t.flatMap fun c => [c, c] else t
  if t.length != 6 then .error (.colourLength (String.ofList text))
  else
    match readByte? (t.take 2), readByte? ((t.drop 2).take 2), readByte? (t.drop 4) with
    | some r, some g, some b => .ok [channel r, channel g, channel b]
    | _, _, _ => .error (.colourDigits (String.ofList text))

/-- The channels of a text: a colour name or hexadecimal digits. -/
def ofText (text : String) : Except Fault (List Float) :=
  match named.lookup (smallText (trimText text)) with
  | some code => .ok (ofCode code)
  | none => ofHex text.toList

/-! ## Data -/

/-- The channels that some data stand for: a colour, a text, a number, or three channels. -/
def ofData (args : List Datum) : Except Fault (List Float) :=
  match args with
  | [d] =>
    match d with
    | .value _ .color parts => .ok parts
    | .text s => ofText s
    | .int n => .ok (ofCode n)
    | d => .error (.about .colourValue d)
  | [r, g, b] => do
    return [← r.toFloat, ← g.toFloat, ← b.toFloat]
  | args => .error (.colourCount args.length)

/-- The channels of a colour made of some data; white without any. -/
def make (args : List Datum) : Except Fault (List Float) :=
  if args.isEmpty then .ok [1, 1, 1] else ofData args

end SceneBridge.Colour
