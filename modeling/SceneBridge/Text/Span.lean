/-!
# Spans of characters

A character class beyond ASCII is a table of spans. A span holds every `stride`-th
code point from `first` to `last`; alternating capital and small letters make
spans of stride two common.
-/

namespace SceneBridge.Text

/-- The code points `first`, `first + stride`, … up to `last`. -/
structure Span where
  first : Nat
  last : Nat
  stride : Nat
deriving Repr, DecidableEq

/-- Is the code point `n` in the span? -/
def Span.contains (s : Span) (n : Nat) : Bool :=
  s.first ≤ n && n ≤ s.last && (n - s.first) % s.stride == 0

/-- Is the code point of `c` in one of the spans? -/
def inSpans (table : List Span) (c : Char) : Bool :=
  table.any (·.contains c.toNat)

end SceneBridge.Text
