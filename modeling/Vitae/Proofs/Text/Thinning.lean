import Vitae.Proofs.Text.Lines

/-!
# Texts with fewer blank lines

A text is thinned when line feeds next to another one are taken out of it, one after the other. What
is left is the same text but for the lengths of the runs of line feeds, none of which vanishes: its
lines are lines of the text, and those that are missing are empty.
-/

namespace Vitae.Text

/-- The text with a single line feed in the place of every run of them. -/
def squeeze : List Char → List Char
  | [] => []
  | c :: cs => if c = '\n' ∧ cs.head? = some '\n' then squeeze cs else c :: squeeze cs

example : squeeze "\n\na\n\n\nb\nc\n\n".toList = "\na\nb\nc\n".toList := by decide

/-- The second text comes from the first by taking out, so many times, one of two line feeds that
stand side by side. -/
inductive Thins : Nat → List Char → List Char → Prop
  | refl (cs : List Char) : Thins 0 cs cs
  | step {n : Nat} {cs before after : List Char} :
    Thins n cs (before ++ '\n' :: '\n' :: after) → Thins (n + 1) cs (before ++ '\n' :: after)

namespace Thins

variable {m n : Nat} {as bs cs ds : List Char}

/-! ### Thinning in parts -/

theorem trans (h : Thins m as bs) (h' : Thins n bs cs) : Thins (m + n) as cs := by
  induction h' with
  | refl bs => exact h
  | step _ ih => exact (ih h).step

theorem append_left (before : List Char) (h : Thins n as bs) :
    Thins n (before ++ as) (before ++ bs) := by
  induction h with
  | refl cs => exact .refl _
  | step _ ih =>
    rw [← List.append_assoc] at ih ⊢
    exact ih.step

theorem append_right (after : List Char) (h : Thins n as bs) :
    Thins n (as ++ after) (bs ++ after) := by
  induction h with
  | refl cs => exact .refl _
  | step _ ih =>
    rw [List.append_assoc] at ih ⊢
    exact ih.step

theorem append (h : Thins m as bs) (h' : Thins n cs ds) : Thins (m + n) (as ++ cs) (bs ++ ds) :=
  (h.append_right cs).trans (h'.append_left bs)

theorem cons (c : Char) (h : Thins n as bs) : Thins n (c :: as) (c :: bs) := h.append_left [c]

/-! ### What is left -/

theorem squeeze_step (before after : List Char) :
    squeeze (before ++ '\n' :: '\n' :: after) = squeeze (before ++ '\n' :: after) := by
  induction before with
  | nil => rw [List.nil_append, squeeze, if_pos ⟨rfl, rfl⟩, List.nil_append]
  | cons c before ih =>
    have hhead : (before ++ '\n' :: '\n' :: after).head? = (before ++ '\n' :: after).head? := by
      cases before <;> rfl
    rw [List.cons_append, List.cons_append, squeeze, squeeze, hhead, ih]

theorem squeeze_eq (h : Thins n as bs) : squeeze bs = squeeze as := by
  induction h with
  | refl cs => rfl
  | @step n cs before after _ ih => exact (squeeze_step before after).symm.trans ih

theorem lines_step (before after : List Char) :
    lines (before ++ '\n' :: '\n' :: after) = lines before ++ [] :: lines after := by
  rw [lines_append_feed, lines, if_pos rfl]

theorem lines_sublist (h : Thins n as bs) : (lines bs).Sublist (lines as) := by
  induction h with
  | refl cs => exact List.Sublist.refl _
  | @step n cs before after _ ih =>
    rw [lines_step] at ih
    rw [lines_append_feed]
    exact ((List.sublist_cons_self [] (lines after)).append_left (lines before)).trans ih

theorem filter_lines_eq (h : Thins n as bs) :
    (lines bs).filter (!·.isEmpty) = (lines as).filter (!·.isEmpty) := by
  induction h with
  | refl cs => rfl
  | @step n cs before after _ ih =>
    rw [lines_step, List.filter_append] at ih
    rw [lines_append_feed, List.filter_append]
    exact ih

end Thins

end Vitae.Text
