import SceneBridge.Datum.Basic
import SceneBridge.Entries
import SceneBridge.Number.Numeral

/-!
# JSON texts

Reading a JSON text as a datum. Numbers without fraction and exponent are integers;
`NaN` and the infinities are numbers; of a repeated key the last value counts. A
fault carries the place where reading stopped.
-/

namespace SceneBridge.Json

open Number

/-! ## Faults -/

/-- What a JSON text lacks. -/
inductive Complaint where
  | value
  | propertyName
  | colon
  | comma
  | extraData
  | unterminated
  | controlCharacter
  | escape
  | unicodeEscape
  | byteOrderMark
deriving Repr, DecidableEq

/-- Why a text is no JSON: a complaint about a position, or an integer too long to read. -/
inductive JsonFault where
  | at_ (complaint : Complaint) (position : Nat)
  | longInteger
deriving Repr, DecidableEq

/-- The wording of a complaint. -/
def Complaint.message : Complaint → String
  | .value => "Expecting value"
  | .propertyName => "Expecting property name enclosed in double quotes"
  | .colon => "Expecting ':' delimiter"
  | .comma => "Expecting ',' delimiter"
  | .extraData => "Extra data"
  | .unterminated => "Unterminated string starting at"
  | .controlCharacter => "Invalid control character at"
  | .escape => "Invalid \\escape"
  | .unicodeEscape => "Invalid \\uXXXX escape"
  | .byteOrderMark => "Unexpected UTF-8 BOM (decode using utf-8-sig)"

/-- The wording of a complaint about a position of a text: line, column and position. -/
def complaintText (text : List Char) (c : Complaint) (position : Nat) : String :=
  let before := text.take position
  let line := before.count '\n' + 1
  let column := (before.reverse.takeWhile (· != '\n')).length + 1
  c.message ++ ": line " ++ toString line ++ " column " ++ toString column ++
    " (char " ++ toString position ++ ")"

/-! ## Reading -/

/-- The rest of a text and the position where it starts. -/
structure Cursor where
  position : Nat
  rest : List Char

/-- The cursor `n` characters further on. -/
def Cursor.skip (c : Cursor) (n : Nat) : Cursor :=
  ⟨c.position + n, c.rest.drop n⟩

/-- The blanks between the parts of a JSON text. -/
def isJsonBlank (c : Char) : Bool :=
  c == ' ' || c == '\t' || c == '\n' || c == '\r'

/-- The cursor behind the blanks. -/
def Cursor.skipBlanks (c : Cursor) : Cursor :=
  c.skip (c.rest.takeWhile isJsonBlank).length

/-- A fault at the cursor. -/
def Cursor.fail {α : Type} (c : Cursor) (complaint : Complaint) : Except JsonFault α :=
  .error (.at_ complaint c.position)

/-- The value of a hexadecimal digit. -/
def hexValue? (c : Char) : Option Nat :=
  if c.isDigit then some (c.toNat - 48)
  else if 'a' ≤ c && c ≤ 'f' then some (c.toNat - 87)
  else if 'A' ≤ c && c ≤ 'F' then some (c.toNat - 55)
  else none

/-- The value of four hexadecimal digits. -/
def hex4? : List Char → Option Nat
  | a :: b :: c :: d :: _ => do
    return (← hexValue? a) * 4096 + (← hexValue? b) * 256 + (← hexValue? c) * 16 + (← hexValue? d)
  | _ => none

/-- Is the number the first half of a pair that stands for one character? -/
def isHighHalf (n : Nat) : Bool :=
  0xD800 ≤ n && n < 0xDC00

/-- Is the number the second half of such a pair? -/
def isLowHalf (n : Nat) : Bool :=
  0xDC00 ≤ n && n < 0xE000

/-- The character with the given number; half a pair stands for no character. -/
def charOf (n : Nat) : Char :=
  if isHighHalf n || isLowHalf n then Char.ofNat 0xFFFD else Char.ofNat n

/-- The character of a short escape. -/
def shortEscape? : Char → Option Char
  | '"' => some '"'
  | '\\' => some '\\'
  | '/' => some '/'
  | 'b' => some (Char.ofNat 8)
  | 'f' => some (Char.ofNat 12)
  | 'n' => some '\n'
  | 'r' => some '\r'
  | 't' => some '\t'
  | _ => none

/-- The character of an escape that starts with `u`, from behind that letter, and the
number of characters read. A pair of halves is read together. At least one more
character has to follow the digits. -/
def unicodeEscape (c : Cursor) : Except JsonFault (Char × Nat) :=
  if c.rest.length ≤ 4 then .error (.at_ .unicodeEscape (c.position - 1))
  else
    match hex4? c.rest with
    | none => .error (.at_ .unicodeEscape (c.position - 1))
    | some high =>
      match c.rest.drop 4 with
      | '\\' :: 'u' :: more =>
        if isHighHalf high && more.length > 4 then
          match hex4? more with
          | none => .error (.at_ .unicodeEscape (c.position + 5))
          | some low =>
            if isLowHalf low then
              .ok (Char.ofNat (0x10000 + (high - 0xD800) * 0x400 + (low - 0xDC00)), 10)
            else .ok (charOf high, 4)
        else .ok (charOf high, 4)
      | _ => .ok (charOf high, 4)

/-- Reads the rest of a text in double quotes whose opening quote is at `start`. -/
def readText (start : Nat) : Nat → Cursor → Except JsonFault (List Char × Cursor)
  | 0, _ => .error (.at_ .unterminated start)
  | fuel + 1, c =>
    match c.rest with
    | [] => .error (.at_ .unterminated start)
    | '"' :: _ => .ok ([], c.skip 1)
    | '\\' :: 'u' :: _ => do
      let (ch, n) ← unicodeEscape (c.skip 2)
      let (cs, c) ← readText start fuel (c.skip (n + 2))
      return (ch :: cs, c)
    | '\\' :: e :: _ =>
      match shortEscape? e with
      | none => c.fail .escape
      | some ch => do
        let (cs, c) ← readText start fuel (c.skip 2)
        return (ch :: cs, c)
    | ['\\'] => .error (.at_ .unterminated start)
    | ch :: _ =>
      if ch.toNat ≤ 0x1F then c.fail .controlCharacter
      else do
        let (cs, c) ← readText start fuel (c.skip 1)
        return (ch :: cs, c)

/-- The length of the integer part of a number, sign left out. -/
def integerLength : List Char → Nat
  | [] => 0
  | c :: cs =>
    if c == '0' then 1
    else if c.isDigit then 1 + (cs.takeWhile Char.isDigit).length
    else 0

/-- The length of a fraction, its point included. -/
def fractionLength : List Char → Nat
  | '.' :: cs =>
    let n := (cs.takeWhile Char.isDigit).length
    if n == 0 then 0 else n + 1
  | _ => 0

/-- The length of an exponent, its letter included. -/
def exponentLength : List Char → Nat
  | e :: cs =>
    if e == 'e' || e == 'E' then
      let sign := match cs with
        | '+' :: _ => 1
        | '-' :: _ => 1
        | _ => 0
      let n := ((cs.drop sign).takeWhile Char.isDigit).length
      if n == 0 then 0 else 1 + sign + n
    else 0
  | [] => 0

/-- Reads a number. -/
def readNumber (c : Cursor) : Except JsonFault (Datum × Cursor) :=
  let sign := if c.rest.head? == some '-' then 1 else 0
  let body := c.rest.drop sign
  let whole := integerLength body
  if whole == 0 then c.fail .value
  else
    let fraction := fractionLength (body.drop whole)
    let exponent := exponentLength (body.drop (whole + fraction))
    let length := sign + whole + fraction + exponent
    if fraction + exponent == 0 then
      match readInt? (c.rest.take length) with
      | some n => .ok (.int n, c.skip length)
      | none => .error .longInteger
    else
      .ok (.float ((readFloat? (c.rest.take length)).getD notANumber), c.skip length)

/-- The words that stand for values. -/
def literals : List (List Char × Datum) :=
  [("null".toList, .null), ("true".toList, .bool true), ("false".toList, .bool false),
    ("NaN".toList, .float notANumber), ("Infinity".toList, .float infinity),
    ("-Infinity".toList, .float (withSign true infinity.toBits))]

mutual

/-- Reads a value. Between two calls that do not read a character there is at most one
more, so that two units of fuel for each character of the text are enough. -/
def readValue : Nat → Cursor → Except JsonFault (Datum × Cursor)
  | 0, c => c.fail .value
  | fuel + 1, c =>
    match c.rest with
    | '"' :: _ => (readText c.position fuel (c.skip 1)).map fun (cs, c) =>
        (.text (String.ofList cs), c)
    | '\x7b' :: _ =>
      let c := (c.skip 1).skipBlanks
      if c.rest.head? == some '\x7d' then .ok (.record [], c.skip 1)
      else (readEntries fuel [] c).map fun (es, c) => (.record es, c)
    | '[' :: _ =>
      let c := (c.skip 1).skipBlanks
      if c.rest.head? == some ']' then .ok (.list [], c.skip 1)
      else (readItems fuel c).map fun (ds, c) => (.list ds, c)
    | _ =>
      match literals.find? (·.1.isPrefixOf c.rest) with
      | some (word, d) => .ok (d, c.skip word.length)
      | none => readNumber c

/-- Reads the items of a list up to its closing bracket. -/
def readItems : Nat → Cursor → Except JsonFault (List Datum × Cursor)
  | 0, c => c.fail .value
  | fuel + 1, c => do
    let (d, c) ← readValue fuel c
    let c := c.skipBlanks
    match c.rest with
    | ']' :: _ => return ([d], c.skip 1)
    | ',' :: _ =>
      let (ds, c) ← readItems fuel (c.skip 1).skipBlanks
      return (d :: ds, c)
    | _ => c.fail .comma

/-- Reads the entries of a record up to its closing brace; those read before are `entries`. -/
def readEntries : Nat → List (String × Datum) → Cursor →
    Except JsonFault (List (String × Datum) × Cursor)
  | 0, _, c => c.fail .value
  | fuel + 1, entries, c =>
    if c.rest.head? != some '"' then c.fail .propertyName
    else do
      let (key, c) ← readText c.position fuel (c.skip 1)
      let c := c.skipBlanks
      if c.rest.head? != some ':' then c.fail .colon
      else
        let (d, c) ← readValue fuel (c.skip 1).skipBlanks
        let entries := Entries.put entries (String.ofList key) d
        let c := c.skipBlanks
        match c.rest with
        | '\x7d' :: _ => return (entries, c.skip 1)
        | ',' :: _ => readEntries fuel entries (c.skip 1).skipBlanks
        | _ => c.fail .comma

end

/-- The datum that a JSON text stands for. -/
def read (text : List Char) : Except JsonFault Datum :=
  if text.head? == some (Char.ofNat 0xFEFF) then .error (.at_ .byteOrderMark 0)
  else do
    let (d, c) ← readValue (2 * text.length + 2) (Cursor.skipBlanks ⟨0, text⟩)
    let c := c.skipBlanks
    if c.rest.isEmpty then return d else c.fail .extraData

end SceneBridge.Json
