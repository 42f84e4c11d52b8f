/-!
# Cutting and joining texts

Splitting a text at a character, all over or at most a number of times, cutting
it at the first occurrence of a character, and the inverse: joining.
-/

namespace SceneBridge.Text

/-- Puts `c` in front of the first of some parts. -/
def consFirst (c : Char) : List (List Char) → List (List Char)
  | [] => [[c]]
  | p :: ps => (c :: p) :: ps

@[simp]
theorem length_consFirst {c : Char} {ps : List (List Char)} (h : ps ≠ []) :
    (consFirst c ps).length = ps.length := by
  cases ps with
  | nil => exact absurd rfl h
  | cons p ps => rfl

/-- The parts of a text between the characters `sep`. -/
def splitOn (sep : Char) : List Char → List (List Char)
  | [] => [[]]
  | c :: cs => if c == sep then [] :: splitOn sep cs else consFirst c (splitOn sep cs)

/-- The parts of a text between its first `budget` characters `sep`; all of them
where no budget is given. -/
def splitOnAtMost (sep : Char) : Option Nat → List Char → List (List Char)
  | _, [] => [[]]
  | some 0, cs => [cs]
  | some (n + 1), c :: cs =>
    if c == sep then [] :: splitOnAtMost sep (some n) cs
    else consFirst c (splitOnAtMost sep (some (n + 1)) cs)
  | none, c :: cs =>
    if c == sep then [] :: splitOnAtMost sep none cs
    else consFirst c (splitOnAtMost sep none cs)

/-- What stands before and after the first `sep`, if there is one. -/
def cutAt? (sep : Char) : List Char → Option (List Char × List Char)
  | [] => none
  | c :: cs => if c == sep then some ([], cs) else (cutAt? sep cs).map fun (l, r) => (c :: l, r)

/-- The texts with `sep` between them. -/
def join (sep : String) (parts : List String) : String :=
  String.intercalate sep parts

end SceneBridge.Text
