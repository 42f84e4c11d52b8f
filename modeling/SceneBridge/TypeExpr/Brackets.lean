import SceneBridge.Text.Cut
import SceneBridge.Text.Quoted

/-!
# Brackets

Scanning a text for its bracket structure. The scan keeps the closing brackets it
waits for and whether it is between double quotes; a text is split only at
separators outside of both. The search for the bracket that closes a given one
looks at brackets alone.
-/

namespace SceneBridge

open Text

/-! ## Malformed texts -/

/-- Why a text has no bracket structure, or no type. -/
inductive Malformed where
  /-- A bracket closes what was not opened. -/
  | unbalanced (bracket : Char) (position : Nat) (text : List Char)
  /-- A bracket or a quote is left open. -/
  | unclosed (text : List Char)
  /-- A type is missing. -/
  | emptySegment
  /-- A record field without a name or without a colon. -/
  | badField (pair : List Char)
deriving Repr, DecidableEq

/-- The wording of a fault in a text. -/
def Malformed.message : Malformed → String
  | .unbalanced c i text =>
    "unbalanced '" ++ c.toString ++ "' at " ++ toString i ++ " in " ++ String.ofList (quoted text)
  | .unclosed text => "unclosed delimiter in " ++ String.ofList (quoted text)
  | .emptySegment => "empty type segment"
  | .badField pair => "bad object field " ++ String.ofList (quoted pair)

/-! ## The scan -/

namespace Brackets

/-- The bracket that closes an opening one. -/
def closer? : Char → Option Char
  | '<' => some '>'
  | '\x7b' => some '\x7d'
  | '[' => some ']'
  | '(' => some ')'
  | _ => none

/-- Is the character a closing bracket? -/
def isCloser (c : Char) : Bool :=
  c == '>' || c == '\x7d' || c == ']' || c == ')'

/-- What a scan from the left has seen. -/
structure Scan where
  /-- The closing brackets that are due, innermost first. -/
  awaited : List Char
  /-- Is the scan between double quotes? -/
  quoted : Bool
  /-- The character before. -/
  previous : Option Char
deriving Repr, DecidableEq

/-- The scan before the first character. -/
def Scan.start : Scan := ⟨[], false, none⟩

/-- Is `c` a double quote that opens or closes? One after a backslash is not. -/
def Scan.isQuote (s : Scan) (c : Char) : Bool :=
  c == '"' && s.previous != some '\\'

/-- The scan after one more character. `none` if it closes what was not opened. -/
def Scan.step (s : Scan) (c : Char) : Option Scan :=
  if s.isQuote c then some ⟨s.awaited, !s.quoted, some c⟩
  else if s.quoted then some ⟨s.awaited, true, some c⟩
  else
    match closer? c with
    | some k => some ⟨k :: s.awaited, false, some c⟩
    | none =>
      if isCloser c then
        match s.awaited with
        | k :: ks => if k == c then some ⟨ks, false, some c⟩ else none
        | [] => none
      else some ⟨s.awaited, false, some c⟩

/-- Is the scan outside of brackets and quotes? -/
def Scan.atTop (s : Scan) : Bool :=
  s.awaited.isEmpty && !s.quoted

/-- Does `c` separate parts here? Brackets and quotes never do. -/
def Scan.separates (s : Scan) (sep : Char → Bool) (c : Char) : Bool :=
  s.atTop && !s.isQuote c && (closer? c).isNone && !isCloser c && sep c

/-! ## Splitting -/

/-- Splits what follows the scan `s` at separators outside of brackets and quotes,
at most `budget` times. The text as a whole is `text`, and `i` characters of it are read. -/
def splitFrom (text : List Char) (sep : Char → Bool) (budget : Option Nat) (s : Scan) (i : Nat) :
    List Char → Except Malformed (List (List Char))
  | [] => if s.atTop then .ok [[]] else .error (.unclosed text)
  | c :: cs =>
    match s.step c with
    | none => .error (.unbalanced c i text)
    | some t =>
      if s.separates sep c && budget != some 0 then
        (splitFrom text sep (budget.map (· - 1)) t (i + 1) cs).map ([] :: ·)
      else
        (splitFrom text sep budget t (i + 1) cs).map (consFirst c)

/-- The parts of a text between the separators outside of brackets and quotes. -/
def split (sep : Char → Bool) (budget : Option Nat) (text : List Char) :
    Except Malformed (List (List Char)) :=
  splitFrom text sep budget .start 0 text

/-- The parts of a text between top-level occurrences of `sep`, at most `most` cuts
being made unless `most` is negative. Only a single character separates. -/
def splitText (text sep : String) (most : Int) : Except Malformed (List String) :=
  let budget := if most < 0 then none else some most.toNat
  (split (fun c => sep == String.singleton c) budget text.toList).map (·.map String.ofList)

/-- The characters of some parts, all together. -/
def total : List (List Char) → Nat
  | [] => 0
  | p :: ps => p.length + total ps

@[simp]
theorem total_nil : total [] = 0 := rfl

@[simp]
theorem total_cons (p : List Char) (ps : List (List Char)) :
    total (p :: ps) = p.length + total ps := rfl

theorem total_consFirst {c : Char} {ps : List (List Char)} (h : ps ≠ []) :
    total (consFirst c ps) = total ps + 1 := by
  cases ps with
  | nil => exact absurd rfl h
  | cons p ps =>
    simp only [consFirst, total_cons, List.length_cons]
    omega

theorem map_eq_ok {α β : Type} {f : α → β} {x : Except Malformed α} {b : β} :
    x.map f = .ok b ↔ ∃ a, x = .ok a ∧ f a = b := by
  cases x <;> simp [Except.map]

theorem bind_eq_ok {α β : Type} {f : α → Except Malformed β} {x : Except Malformed α} {b : β} :
    x >>= f = .ok b ↔ ∃ a, x = .ok a ∧ f a = .ok b := by
  cases x <;> simp [bind, Except.bind]

/-- Nothing but the separators is lost by splitting. -/
theorem total_splitFrom {text sep budget s i cs ps}
    (h : splitFrom text sep budget s i cs = .ok ps) :
    total ps + ps.length = cs.length + 1 := by
  induction cs generalizing budget s i ps with
  | nil =>
    unfold splitFrom at h
    split at h
    · cases h
      rfl
    · cases h
  | cons c cs ih =>
    unfold splitFrom at h
    split at h
    · cases h
    · split at h <;> obtain ⟨qs, hq, rfl⟩ := map_eq_ok.1 h <;> have := ih hq
      · simp only [total_cons, List.length_cons, List.length_nil]
        omega
      · have hne : qs ≠ [] := by
          rintro rfl
          simp at this
        rw [total_consFirst hne, length_consFirst hne, List.length_cons]
        omega

theorem total_split {sep budget text ps} (h : split sep budget text = .ok ps) :
    total ps + ps.length = text.length + 1 :=
  total_splitFrom h

theorem total_splitOn (sep : Char) (text : List Char) :
    total (splitOn sep text) + (splitOn sep text).length = text.length + 1 := by
  induction text with
  | nil => rfl
  | cons c cs ih =>
    unfold splitOn
    split
    · simp only [total_cons, List.length_cons, List.length_nil]
      omega
    · have hne : splitOn sep cs ≠ [] := by
        intro h
        simp [h] at ih
      rw [total_consFirst hne, length_consFirst hne, List.length_cons]
      omega

/-! ## Matching brackets -/

/-- The position at which the brackets `awaited` and all opened since are closed. -/
def closeFrom (awaited : List Char) (i : Nat) : List Char → Option Nat
  | [] => none
  | c :: cs =>
    match closer? c with
    | some k => closeFrom (k :: awaited) (i + 1) cs
    | none =>
      if isCloser c then
        match awaited with
        | k :: ks =>
          if k == c then (if ks.isEmpty then some i else closeFrom ks (i + 1) cs) else none
        | [] => none
      else closeFrom awaited (i + 1) cs

/-- The position of the bracket that closes the one at position `i`. Quotes are
characters like any other here. -/
def matchingClose? (text : List Char) (i : Nat) : Option Nat :=
  closeFrom [] i (text.drop i)

/-- Is the bracket at position `i` closed by the last character? -/
def wraps (text : List Char) (i : Nat) : Bool :=
  matchingClose? text i == some (text.length - 1)

end Brackets

end SceneBridge
