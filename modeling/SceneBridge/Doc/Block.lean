import SceneBridge.Text.Blank
import SceneBridge.Text.Letter
import SceneBridge.TypeExpr.Basic

/-!
# Documentation blocks

Documentation says what a member is by tags: a line with a word after an at sign, a
type in braces, and a description. The first other line is the summary. Lines may be
decorated as in block comments.
-/

namespace SceneBridge

open Text

/-- A tag: its word, its type as read and as written, and the rest of its line. -/
structure DocTag where
  tag : String
  type : TypeExpr
  typeText : String
  description : String
deriving Inhabited

/-- What a documentation text says. -/
structure DocBlock where
  summary : String
  tags : List DocTag
deriving Inhabited

namespace DocBlock

/-- A block that says nothing. -/
def empty : DocBlock := ⟨"", []⟩

/-- The first tag with the given word. -/
def first? (b : DocBlock) (tag : String) : Option DocTag :=
  b.tags.find? (·.tag == tag)

/-- The tags with the given word. -/
def all (b : DocBlock) (tag : String) : List DocTag :=
  b.tags.filter (·.tag == tag)

/-- Does the block say anything? -/
def isTruthy (b : DocBlock) : Bool :=
  !b.summary.isEmpty || !b.tags.isEmpty

end DocBlock

/-! ## Tag lines -/

/-- The text up to the brace that closes `depth` open ones, and the text behind it. -/
def readBraced (depth : Nat) : List Char → Option (List Char × List Char)
  | [] => none
  | c :: cs =>
    if c == '\x7b' then (readBraced (depth + 1) cs).map fun (l, r) => (c :: l, r)
    else if c == '\x7d' then
      match depth with
      | 0 => some ([], cs)
      | d + 1 => (readBraced d cs).map fun (l, r) => (c :: l, r)
    else (readBraced depth cs).map fun (l, r) => (c :: l, r)

/-- The word of a tag and the text behind the brace after it, if a tag starts here. -/
def tagHead? : List Char → Option (List Char × List Char)
  | '@' :: cs =>
    let word := cs.takeWhile isWordChar
    match (cs.dropWhile isWordChar).dropWhile isBlank with
    | '\x7b' :: rest => if word.isEmpty then none else some (word, rest)
    | _ => none
  | _ => none

/-- The first start of a tag in a line. -/
def findTag? : List Char → Option (List Char × List Char)
  | [] => none
  | c :: cs =>
    match tagHead? (c :: cs) with
    | some found => some found
    | none => findTag? cs

/-- The parts of a tag line: the word, the type text and the description. -/
def tagParts? (line : List Char) : Option (List Char × List Char × List Char) := do
  let (word, rest) ← findTag? line
  let (type, rest) ← readBraced 0 rest
  return (word, trim type, trim rest)

/-- The tag of a line, types being read by `read`. -/
def DocTag.ofLine? (read : String → TypeExpr) (line : String) : Option DocTag :=
  (tagParts? line.toList).map fun (word, type, description) =>
    let typeText := String.ofList type
    ⟨String.ofList word, read typeText, typeText, String.ofList description⟩

/-! ## Blocks -/

/-- The decoration at the start of a line: the start, the end or the middle of a block comment. -/
def dropDecoration : List Char → List Char
  | '/' :: '*' :: '*' :: cs => cs.dropWhile (· == '*')
  | '*' :: '/' :: cs => cs
  | '*' :: cs => cs
  | cs => cs

/-- A line without its decoration: blanks, one mark, and at most one blank after it. -/
def undecorated (line : List Char) : List Char :=
  match dropDecoration (line.dropWhile isBlank) with
  | c :: cs => trimRightBy isBlank (if isBlank c then cs else c :: cs)
  | [] => []

/-- The block after one more line. -/
def DocBlock.addLine (read : String → TypeExpr) (b : DocBlock) (line : List Char) : DocBlock :=
  let line := undecorated line
  if (trim line).isEmpty then b
  else
    match DocTag.ofLine? read (String.ofList line) with
    | some tag => { b with tags := b.tags ++ [tag] }
    | none =>
      if b.summary.isEmpty && (line.dropWhile isBlank).head? != some '@' then
        { b with summary := String.ofList (trim line) }
      else b

/-- What a documentation text says, types being read by `read`. -/
def DocBlock.ofText (read : String → TypeExpr) (text : String) : DocBlock :=
  (lines text.toList).foldl (DocBlock.addLine read) .empty

end SceneBridge
