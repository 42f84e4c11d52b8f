/-!
# Blanks

The characters that count as white space, the characters that end a line, and
the cuts that depend on them: trimming, splitting into lines, the first word.
-/

namespace SceneBridge.Text

/-! ## Blank characters -/

/-- White space: the control characters that separate, the space, and the
spaces and separators outside ASCII. -/
def isBlank (c : Char) : Bool :=
  let n := c.toNat
  (9 ≤ n && n ≤ 13) || (28 ≤ n && n ≤ 32) || n == 0x85 || n == 0xA0 || n == 0x1680 ||
  (0x2000 ≤ n && n ≤ 0x200A) || n == 0x2028 || n == 0x2029 || n == 0x202F || n == 0x205F ||
  n == 0x3000

/-- The characters that end a line of a text. -/
def isLineEnd (c : Char) : Bool :=
  let n := c.toNat
  (10 ≤ n && n ≤ 13) || (28 ≤ n && n ≤ 30) || n == 0x85 || n == 0x2028 || n == 0x2029

/-! ## Trimming -/

/-- The text without the leading characters that satisfy `p`. -/
def trimLeftBy (p : Char → Bool) (cs : List Char) : List Char :=
  cs.dropWhile p

/-- The text without the trailing characters that satisfy `p`. -/
def trimRightBy (p : Char → Bool) (cs : List Char) : List Char :=
  (cs.reverse.dropWhile p).reverse

/-- The text without the characters at both ends that satisfy `p`. -/
def trimBy (p : Char → Bool) (cs : List Char) : List Char :=
  trimRightBy p (trimLeftBy p cs)

/-- The text without blanks at both ends. -/
def trim (cs : List Char) : List Char :=
  trimBy isBlank cs

theorem length_trimBy_le (p : Char → Bool) (cs : List Char) : (trimBy p cs).length ≤ cs.length := by
  have h := (List.dropWhile_suffix (l := (trimLeftBy p cs).reverse) p).length_le
  have h' := (List.dropWhile_suffix (l := cs) p).length_le
  simp only [trimBy, trimRightBy, trimLeftBy, List.length_reverse] at h ⊢
  omega

theorem length_trim_le (cs : List Char) : (trim cs).length ≤ cs.length :=
  length_trimBy_le isBlank cs

/-- The text without blanks at both ends. -/
def trimText (s : String) : String :=
  String.ofList (trim s.toList)

/-! ## Lines and words -/

/-- The lines of a text, without their ends. A carriage return and a line feed
together end one line; an end at the very end of the text opens no new line. -/
def lines : List Char → List (List Char)
  | [] => []
  | '\r' :: '\n' :: cs => [] :: lines cs
  | c :: cs =>
    if isLineEnd c then
      [] :: lines cs
    else
      match lines cs with
      | [] => [[c]]
      | l :: ls => (c :: l) :: ls

/-- The first word of a text: what stands between its leading blanks and the
next blank. -/
def firstWord (cs : List Char) : List Char :=
  (cs.dropWhile isBlank).takeWhile (!isBlank ·)

end SceneBridge.Text
