import Mathlib.Data.List.DropRight
import Vitae.Text.Blank
import Vitae.Text.Lines

/-!
# Lines of a stripped text

The lines of a text hold its characters but its line feeds, and joining lines and splitting them
again gives the same lines. A stripped text that is not empty ends with a character that is no white
space, and so does its last line.
-/

namespace Vitae.Text

/-! ### Splitting and joining -/

theorem mem_of_mem_consLine {c : Char} {line : List Char} {ls : List (List Char)}
    (h : line ∈ consLine c ls) : line ∈ ls ∨ ∃ rest ∈ [] :: ls, line = c :: rest := by
  cases ls with
  | nil => exact Or.inr ⟨[], List.mem_cons_self .., List.mem_singleton.1 h⟩
  | cons first others =>
    rcases List.mem_cons.1 h with rfl | hothers
    · exact Or.inr ⟨first, List.mem_cons_of_mem _ (List.mem_cons_self ..), rfl⟩
    · exact Or.inl (List.mem_cons_of_mem _ hothers)

theorem newline_notMem_of_mem_lines {cs line : List Char} (h : line ∈ lines cs) : '\n' ∉ line := by
  induction cs generalizing line with
  | nil =>
    rw [List.mem_singleton.1 h]
    simp
  | cons c cs ih =>
    by_cases hfeed : c = '\n'
    · rw [lines, if_pos hfeed] at h
      rcases List.mem_cons.1 h with rfl | hrest
      · simp
      · exact ih hrest
    · rw [lines, if_neg hfeed] at h
      rcases mem_of_mem_consLine h with hline | ⟨rest, hrest, rfl⟩
      · exact ih hline
      · have hnot : '\n' ∉ rest := by
          rcases List.mem_cons.1 hrest with rfl | hrest
          · simp
          · exact ih hrest
        exact fun hmem => (List.mem_cons.1 hmem).elim (fun heq => hfeed heq.symm) hnot

theorem mem_of_mem_lines {cs line : List Char} {c : Char} (h : line ∈ lines cs) (hc : c ∈ line) :
    c ∈ cs := by
  induction cs generalizing line with
  | nil =>
    rw [List.mem_singleton.1 h] at hc
    exact hc
  | cons d cs ih =>
    by_cases hfeed : d = '\n'
    · rw [lines, if_pos hfeed] at h
      rcases List.mem_cons.1 h with rfl | hrest
      · simp at hc
      · exact List.mem_cons_of_mem _ (ih hrest hc)
    · rw [lines, if_neg hfeed] at h
      rcases mem_of_mem_consLine h with hline | ⟨rest, hrest, rfl⟩
      · exact List.mem_cons_of_mem _ (ih hline hc)
      · rcases List.mem_cons.1 hc with rfl | hc
        · exact List.mem_cons_self ..
        · rcases List.mem_cons.1 hrest with rfl | hrest
          · simp at hc
          · exact List.mem_cons_of_mem _ (ih hrest hc)

theorem lines_of_newline_notMem {line : List Char} (h : '\n' ∉ line) : lines line = [line] := by
  induction line with
  | nil => rfl
  | cons c cs ih =>
    rw [List.mem_cons, not_or] at h
    rw [lines, if_neg fun hfeed => h.1 hfeed.symm, ih h.2]
    rfl

theorem consLine_append (c : Char) {ls : List (List Char)} (h : ls ≠ []) (more : List (List Char)) :
    consLine c (ls ++ more) = consLine c ls ++ more := by
  obtain ⟨line, rest, rfl⟩ := List.exists_cons_of_ne_nil h
  rfl

theorem lines_append_feed (before after : List Char) :
    lines (before ++ '\n' :: after) = lines before ++ lines after := by
  induction before with
  | nil => rfl
  | cons c cs ih =>
    rw [List.cons_append, lines, lines, ih]
    split
    · rfl
    · exact consLine_append c (lines_ne_nil cs) _

theorem lines_append_newline {line : List Char} (h : '\n' ∉ line) (rest : List Char) :
    lines (line ++ '\n' :: rest) = line :: lines rest := by
  rw [lines_append_feed, lines_of_newline_notMem h]
  rfl

theorem lines_unlines {ls : List (List Char)} (hne : ls ≠ []) (h : ∀ line ∈ ls, '\n' ∉ line) :
    lines (unlines ls) = ls := by
  match ls with
  | [] => exact absurd rfl hne
  | [line] => exact lines_of_newline_notMem (h line (List.mem_cons_self ..))
  | line :: next :: rest =>
    have hrest := lines_unlines (List.cons_ne_nil next rest) fun l hl =>
      h l (List.mem_cons_of_mem _ hl)
    have hunlines : unlines (line :: next :: rest) = line ++ '\n' :: unlines (next :: rest) := rfl
    rw [hunlines, lines_append_newline (h line (List.mem_cons_self ..)), hrest]

/-! ### Last lines -/

theorem getLast?_consLine (c : Char) {ls : List (List Char)} {line : List Char}
    (h : ls.getLast? = some line) :
    (consLine c ls).getLast? = some line ∨ (consLine c ls).getLast? = some (c :: line) := by
  match ls with
  | [] => simp at h
  | [first] =>
    rw [List.getLast?_singleton, Option.some.injEq] at h
    exact Or.inr (by rw [← h]; rfl)
  | first :: next :: rest =>
    rw [List.getLast?_cons_cons] at h
    exact Or.inl (by rw [consLine, List.getLast?_cons_cons, h])

theorem exists_getLast?_lines {cs : List Char} {c : Char} (h : cs.getLast? = some c)
    (hfeed : c ≠ '\n') : ∃ line, (lines cs).getLast? = some line ∧ c ∈ line := by
  induction cs with
  | nil => simp at h
  | cons d cs ih =>
    cases cs with
    | nil =>
      rw [List.getLast?_singleton, Option.some.injEq] at h
      subst h
      exact ⟨[d], by rw [lines, if_neg hfeed]; rfl, List.mem_cons_self ..⟩
    | cons e cs =>
      rw [List.getLast?_cons_cons] at h
      obtain ⟨line, hline, hmem⟩ := ih h
      by_cases hd : d = '\n'
      · refine ⟨line, ?_, hmem⟩
        rw [lines, if_pos hd, List.getLast?_cons, hline]
        rfl
      · rw [lines, if_neg hd]
        rcases getLast?_consLine d hline with hlast | hlast
        · exact ⟨line, hlast, hmem⟩
        · exact ⟨d :: line, hlast, List.mem_cons_of_mem _ hmem⟩

/-! ### Stripping -/

theorem mem_of_mem_strip {cs : List Char} {c : Char} (h : c ∈ strip cs) : c ∈ cs := by
  have hstart : c ∈ cs.dropWhile isBlank :=
    (List.rdropWhile_prefix isBlank (l := cs.dropWhile isBlank)).subset h
  exact (List.dropWhile_sublist isBlank).subset hstart

theorem exists_getLast?_strip {cs : List Char} (h : strip cs ≠ []) :
    ∃ c, (strip cs).getLast? = some c ∧ isBlank c = false := by
  refine ⟨(strip cs).getLast h, List.getLast?_eq_some_getLast h, ?_⟩
  have hlast := List.rdropWhile_last_not isBlank (cs.dropWhile isBlank) h
  exact Bool.eq_false_iff.2 hlast

end Vitae.Text
