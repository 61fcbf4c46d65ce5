/-!
# Lines

A text as the list of its lines, without their line feeds. The text after the last line feed is a
line too, so there is always at least one.
-/

namespace Vitae.Text

def consLine (c : Char) : List (List Char) → List (List Char)
  | [] => [[c]]
  | line :: rest => (c :: line) :: rest

def lines : List Char → List (List Char)
  | [] => [[]]
  | c :: cs => if c = '\n' then [] :: lines cs else consLine c (lines cs)

/-- The text of lines: a line feed stands between two of them. -/
def unlines : List (List Char) → List Char
  | [] => []
  | [line] => line
  | line :: rest => line ++ '\n' :: unlines rest

theorem lines_ne_nil (cs : List Char) : lines cs ≠ [] := by
  cases cs with
  | nil => simp [lines]
  | cons c cs =>
    simp only [lines]
    split
    · simp
    · cases lines cs <;> simp [consLine]

theorem unlines_consLine (c : Char) {ls : List (List Char)} (h : ls ≠ []) :
    unlines (consLine c ls) = c :: unlines ls := by
  match ls, h with
  | [line], _ => rfl
  | line :: l :: rest, _ => rfl

theorem unlines_lines (cs : List Char) : unlines (lines cs) = cs := by
  induction cs with
  | nil => rfl
  | cons c cs ih =>
    simp only [lines]
    split
    next h =>
      match hl : lines cs with
      | [] => exact absurd hl (lines_ne_nil cs)
      | line :: rest => simp [unlines, ← hl, ih, h]
    next => rw [unlines_consLine c (lines_ne_nil cs), ih]

def normalizeBreaks : List Char → List Char
  | [] => []
  | '\r' :: '\n' :: cs => '\n' :: normalizeBreaks cs
  | c :: cs => (if c = '\r' then '\n' else c) :: normalizeBreaks cs

example : normalizeBreaks ['a', '\r', '\n', '\r', 'b'] = ['a', '\n', '\n', 'b'] := by decide

end Vitae.Text
