import SceneBridge.Text.Printable

/-!
# Quoted texts

A text between quotes, with escapes for the quote, the backslash and every
character without a visible form. Single quotes are used unless the text holds a
single quote and no double one.
-/

namespace SceneBridge.Text

/-- The hexadecimal digits of `n`, padded with zeros to `width`. -/
def hexDigits (width n : Nat) : List Char :=
  let ds := Nat.toDigits 16 n
  List.replicate (width - ds.length) '0' ++ ds

/-- The written form of one character between quotes `quote`. -/
def quotedChar (quote c : Char) : List Char :=
  if c == quote || c == '\\' then ['\\', c]
  else if c == '\n' then ['\\', 'n']
  else if c == '\r' then ['\\', 'r']
  else if c == '\t' then ['\\', 't']
  else if isPrintable c then [c]
  else if c.toNat < 0x100 then '\\' :: 'x' :: hexDigits 2 c.toNat
  else if c.toNat < 0x10000 then '\\' :: 'u' :: hexDigits 4 c.toNat
  else '\\' :: 'U' :: hexDigits 8 c.toNat

/-- The quote that is put around a text. -/
def quoteMark (cs : List Char) : Char :=
  if cs.contains '\'' && !cs.contains '"' then '"' else '\''

/-- The text between quotes. -/
def quoted (cs : List Char) : List Char :=
  let q := quoteMark cs
  q :: cs.flatMap (quotedChar q) ++ [q]

/-- The text between quotes. -/
def quotedText (s : String) : String :=
  String.ofList (quoted s.toList)

end SceneBridge.Text
