import Mathlib.Algebra.GroupWithZero.Nat
import Mathlib.Data.List.DropRight

/-!
# Python's string methods

The methods of `str` the source calls, on the code points of a Lean string.
Case mapping is the ASCII one: the source compares its results with ASCII
constants only, and no other code point that a header or a plan name can carry
maps to the letters of one (`K`, the Kelvin sign, maps to `k`, which occurs
only in `apikey `; headers are decoded as Latin-1 and cannot hold it).
-/

namespace Reliastra.Source.Text

/-- `str.isspace` for one code point. -/
def isSpace (c : Char) : Bool :=
  let n := c.toNat
  (9 ≤ n && n ≤ 13) || (28 ≤ n && n ≤ 32) || n == 133 || n == 160 || n == 5760 ||
    (8192 ≤ n && n ≤ 8202) || n == 8232 || n == 8233 || n == 8239 || n == 8287 || n == 12288

/-- `str.strip()`. -/
def strip (s : String) : String :=
  String.ofList ((s.toList.dropWhile isSpace).rdropWhile isSpace)

/-- `str.lower()`. -/
def lower (s : String) : String := String.ofList (s.toList.map Char.toLower)

/-- `str.upper()`. -/
def upper (s : String) : String := String.ofList (s.toList.map Char.toUpper)

/-- `s[:n]`. -/
def slice (s : String) (n : Nat) : String := String.ofList (s.toList.take n)

/-- `s.replace(c, new)` for a single code point. -/
def replaceChar (s : String) (c : Char) (new : String) : String :=
  String.ofList (s.toList.flatMap (fun d => if d = c then new.toList else [d]))

/-- `s.startswith(head)`. -/
def startsWith (s head : String) : Bool := head.toList.isPrefixOf s.toList

/-- `str.split(None, 1)`: the first word, and what follows it without the
blanks in front, where there is any. -/
def splitFirst (s : String) : Option (String × Option String) :=
  let body := s.toList.dropWhile isSpace
  if body = [] then none
  else
    let rest := (body.dropWhile (fun c => !isSpace c)).dropWhile isSpace
    some (String.ofList (body.takeWhile (fun c => !isSpace c)),
      if rest = [] then none else some (String.ofList rest))

/-- `s.partition(" ")` without the separator. -/
def partitionSpace (s : String) : String × String :=
  (String.ofList (s.toList.takeWhile (fun c => c != ' ')),
    String.ofList ((s.toList.dropWhile (fun c => c != ' ')).drop 1))

/-! ## Formatted strings -/

/-- A part of an f-string. -/
inductive Piece where
  | own (text : String)
  | value (text : String)
  deriving DecidableEq, Repr

/-- The text of an f-string. -/
def render : List Piece → String
  | [] => ""
  | .own text :: rest => text ++ render rest
  | .value text :: rest => text ++ render rest

/-- What is written in the f-string itself. -/
def ownTexts : List Piece → List String
  | [] => []
  | .own text :: rest => text :: ownTexts rest
  | .value _ :: rest => ownTexts rest

/-- What is inserted into it. -/
def values : List Piece → List String
  | [] => []
  | .own _ :: rest => values rest
  | .value text :: rest => text :: values rest

def totalLength (texts : List String) : Nat := (texts.map String.length).sum

theorem render_length (pieces : List Piece) :
    (render pieces).length = totalLength (ownTexts pieces) + totalLength (values pieces) := by
  induction pieces with
  | nil => rfl
  | cons piece rest ih =>
    cases piece with
    | own text =>
      simp only [render, ownTexts, values, totalLength, String.length_append, List.map_cons,
        List.sum_cons] at ih ⊢
      omega
    | value text =>
      simp only [render, ownTexts, values, totalLength, String.length_append, List.map_cons,
        List.sum_cons] at ih ⊢
      omega

theorem mem_render (c : Char) (pieces : List Piece) :
    c ∈ (render pieces).toList ↔
      (∃ text ∈ ownTexts pieces, c ∈ text.toList) ∨ ∃ text ∈ values pieces, c ∈ text.toList := by
  induction pieces with
  | nil => simp [render, ownTexts, values]
  | cons piece rest ih =>
    cases piece with
    | own text =>
      simp only [render, ownTexts, values, String.toList_append, List.mem_append, ih,
        List.mem_cons, exists_eq_or_imp, or_assoc]
    | value text =>
      simp only [render, ownTexts, values, String.toList_append, List.mem_append, ih,
        List.mem_cons, exists_eq_or_imp]
      exact or_left_comm

end Reliastra.Source.Text
