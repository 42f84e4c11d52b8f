import SceneBridge.Text.Blank
import SceneBridge.Text.Cut

/-!
# Outdented texts

A documentation text is written with the indentation of the code around it. Its
plain form has tabs expanded, the first line trimmed on the left, the common
margin of the other lines removed, and no empty lines at either end.
-/

namespace SceneBridge.Text

/-- Tabs replaced by spaces up to the next multiple of eight columns. -/
def expandTabs (column : Nat) : List Char → List Char
  | [] => []
  | c :: cs =>
    if c == '\t' then
      let n := 8 - column % 8
      List.replicate n ' ' ++ expandTabs (column + n) cs
    else if c == '\n' || c == '\r' then
      c :: expandTabs 0 cs
    else
      c :: expandTabs (column + 1) cs

/-- The indentation of a line that is not blank. -/
def indentation? (line : List Char) : Option Nat :=
  let content := line.dropWhile isBlank
  if content.isEmpty then none else some (line.length - content.length)

/-- The least indentation of the lines that are not blank. -/
def margin? (ls : List (List Char)) : Option Nat :=
  (ls.filterMap indentation?).min?

/-- The plain form of a documentation text. -/
def outdent (cs : List Char) : List Char :=
  match splitOn '\n' (expandTabs 0 cs) with
  | [] => []
  | first :: rest =>
    let rest := match margin? rest with
      | some m => rest.map (·.drop m)
      | none => rest
    let all := first.dropWhile isBlank :: rest
    let all := (all.reverse.dropWhile (·.isEmpty)).reverse.dropWhile (·.isEmpty)
    List.intercalate ['\n'] all

/-- The plain form of a documentation text. -/
def outdentText (s : String) : String :=
  String.ofList (outdent s.toList)

end SceneBridge.Text
