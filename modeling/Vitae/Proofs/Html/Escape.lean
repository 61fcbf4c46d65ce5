import Vitae.CharRef
import Vitae.Html

/-!
# Escaped text

Escaping leaves no angle bracket and no quotation mark in a text, and decoding the character
references of an escaped text gives the text back, whatever it says itself.
-/

namespace Vitae.CharRef

theorem decodeFrom_length (closed : Bool) (skipped cs : List Char) :
    decodeFrom closed skipped.length (skipped ++ cs) = decodeFrom closed 0 cs := by
  induction skipped with
  | nil => rfl
  | cons c rest ih => rw [List.length_cons, List.cons_append, decodeFrom, ih]

theorem decodeFrom_reference {closed : Bool} {written cs text : List Char}
    (h : reference? closed (written ++ cs) = some (text, written.length)) :
    decodeFrom closed 0 ('&' :: (written ++ cs)) = text ++ decodeFrom closed 0 cs := by
  rw [decodeFrom, if_pos rfl, h]
  simp only
  rw [decodeFrom_length]

theorem decodeFrom_plain {c : Char} (closed : Bool) (cs : List Char) (h : c ≠ '&') :
    decodeFrom closed 0 (c :: cs) = c :: decodeFrom closed 0 cs := by
  rw [decodeFrom, if_neg h]

/-- A name with a semicolon is read up to the semicolon, whatever follows. -/
theorem decodeFrom_closed (name cs : List Char) {text : List Char}
    (hname : name.all isNameChar = true) (hlength : name.length ≤ nameLimit)
    (h : closed? name = some text) :
    decodeFrom false 0 ('&' :: (name ++ ';' :: cs)) = text ++ decodeFrom false 0 cs := by
  have hrun : (name ++ ';' :: cs).takeWhile isNameChar = name := by
    rw [List.takeWhile_append_of_pos (List.all_eq_true.1 hname), List.takeWhile_cons_of_neg (by decide),
      List.append_nil]
  have hnamed : named? false (name ++ ';' :: cs) = some (text, name.length + 1) := by
    simp only [named?, hrun, List.take_of_length_le hlength, List.drop_left, h]
  have hhash : ∀ rest, name ++ ';' :: cs ≠ '#' :: rest := by
    intro rest heq
    cases name with
    | nil => simp at heq
    | cons c name =>
      rw [List.cons_append, List.cons.injEq] at heq
      rw [List.all_cons, heq.1] at hname
      exact absurd hname (by simp [isNameChar])
  have hreference : reference? false (name ++ [';'] ++ cs) = some (text, (name ++ [';']).length) := by
    rw [List.append_assoc, List.singleton_append, List.length_append]
    unfold reference?
    split
    · exact absurd (by assumption) (hhash _)
    · exact absurd (by assumption) (hhash _)
    · exact absurd (by assumption) (hhash _)
    · exact hnamed
  rw [← decodeFrom_reference hreference, List.append_assoc, List.singleton_append]

end Vitae.CharRef

namespace Vitae.Html

open CharRef

/-! ### Characters that are left -/

def isDelimiter (c : Char) : Bool := c == '<' || c == '>' || c == '"' || c == '\''

theorem any_isDelimiter_escapeChar (c : Char) : (escapeChar c).any isDelimiter = false := by
  unfold escapeChar
  split
  · decide
  · decide
  · decide
  · decide
  · decide
  · rename_i _ hlt hgt hquote hapostrophe
    simp only [List.any_cons, List.any_nil, Bool.or_false, isDelimiter, Bool.or_eq_false_iff,
      beq_eq_false_iff_ne]
    exact ⟨⟨⟨hlt, hgt⟩, hquote⟩, hapostrophe⟩

/-- No delimiter is left in an escaped text. -/
theorem ne_delimiter_of_mem_escape {cs : List Char} {e : Char} (h : e ∈ escape cs) :
    e ≠ '<' ∧ e ≠ '>' ∧ e ≠ '"' ∧ e ≠ '\'' := by
  obtain ⟨c, _, hc⟩ := List.mem_flatMap.1 h
  have hnone := List.any_eq_false.1 (any_isDelimiter_escapeChar c) e hc
  simp only [isDelimiter, Bool.or_eq_true, beq_iff_eq, not_or] at hnone
  exact ⟨hnone.1.1.1, hnone.1.1.2, hnone.1.2, hnone.2⟩

/-! ### Decoding -/

theorem decodeFrom_escapeChar (c : Char) (cs : List Char) :
    decodeFrom false 0 (escapeChar c ++ cs) = c :: decodeFrom false 0 cs := by
  unfold escapeChar
  simp only [String.reduceToList]
  split
  · have hname : closed? ['a', 'm', 'p'] = some ['&'] := by decide +kernel
    exact decodeFrom_closed ['a', 'm', 'p'] cs (by decide) (by decide) hname
  · have hname : closed? ['l', 't'] = some ['<'] := by decide +kernel
    exact decodeFrom_closed ['l', 't'] cs (by decide) (by decide) hname
  · have hname : closed? ['g', 't'] = some ['>'] := by decide +kernel
    exact decodeFrom_closed ['g', 't'] cs (by decide) (by decide) hname
  · have hname : closed? ['q', 'u', 'o', 't'] = some ['"'] := by decide +kernel
    exact decodeFrom_closed ['q', 'u', 'o', 't'] cs (by decide) (by decide) hname
  · have hnumber : reference? false (['#', 'x', '2', '7', ';'] ++ cs) = some (['\''], 5) := rfl
    exact decodeFrom_reference hnumber
  · rename_i hamp _ _ _ _
    exact decodeFrom_plain false cs hamp

/-- Decoding undoes escaping. -/
theorem decode_escape (cs : List Char) : decode (escape cs) = cs := by
  unfold decode escape
  induction cs with
  | nil => rfl
  | cons c cs ih => rw [List.flatMap_cons, decodeFrom_escapeChar, ih]

end Vitae.Html
