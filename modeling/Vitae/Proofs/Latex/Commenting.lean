import Vitae.Proofs.Latex.Argument

/-!
# Commenting blank lines out

A command argument is a filter on lines: all it does to a stripped fragment is that a lone comment
takes the place of every blank line. The same is done by going through the fragment from left to
right and replacing, at every start of a line, a blank line that a line feed ends. What is left has
no blank line, so doing it again changes nothing.
-/

namespace Vitae

namespace Text

/-! ### The ends of a text -/

theorem exists_head?_strip {cs : List Char} (h : strip cs ≠ []) :
    ∃ c, (strip cs).head? = some c ∧ isBlank c = false := by
  obtain ⟨c, rest, hstrip⟩ := List.exists_cons_of_ne_nil h
  refine ⟨c, by rw [hstrip]; rfl, ?_⟩
  obtain ⟨more, hmore⟩ := List.rdropWhile_prefix isBlank (l := cs.dropWhile isBlank)
  have hstart : cs.dropWhile isBlank = c :: (rest ++ more) := by
    rw [← hmore, ← List.cons_append, ← hstrip]
    rfl
  have hhead := List.head?_dropWhile_not isBlank cs
  rwa [hstart] at hhead

/-- There is nothing to strip where no white space stands at the ends. -/
theorem strip_eq_self {cs : List Char} {first last : Char} (hfirst : cs.head? = some first)
    (hlast : cs.getLast? = some last) (hfirstBlank : isBlank first = false)
    (hlastBlank : isBlank last = false) : strip cs = cs := by
  have hstart : stripStart isBlank cs = cs := by
    obtain ⟨rest, rfl⟩ := List.head?_eq_some_iff.1 hfirst
    exact List.dropWhile_cons_of_neg (by rw [hfirstBlank]; decide)
  have hend : stripEnd isBlank cs = cs := by
    obtain ⟨rest, rfl⟩ := List.getLast?_eq_some_iff.1 hlast
    have hreverse : (rest ++ [last]).reverse.dropWhile isBlank = last :: rest.reverse := by
      rw [List.reverse_append]
      exact List.dropWhile_cons_of_neg (by rw [hlastBlank]; decide)
    rw [stripEnd, hreverse, List.reverse_cons, List.reverse_reverse]
  rw [strip, stripOf, hstart, hend]

end Text

namespace Latex

/-! ### From left to right -/

/-- What follows a blank line at the start of a text, if a line feed ends that line. -/
def afterBlankLine? : List Char → Option (List Char)
  | [] => none
  | c :: cs => if c = '\n' then some cs else if c = ' ' ∨ c = '\t' then afterBlankLine? cs else none

theorem length_of_afterBlankLine? {cs rest : List Char} (h : afterBlankLine? cs = some rest) :
    rest.length < cs.length := by
  induction cs with
  | nil => cases h
  | cons c cs ih =>
    rw [afterBlankLine?] at h
    rw [List.length_cons]
    split at h
    · cases h
      omega
    · split at h
      · have hshort := ih h
        omega
      · cases h

/-- The text with `%` on every blank line that begins where a line starts and that a line feed ends.
The flag says whether a line starts here. -/
def commentFrom (starts : Bool) (cs : List Char) : List Char :=
  match _hblank : if starts then afterBlankLine? cs else none with
  | some rest => '%' :: '\n' :: commentFrom true rest
  | none =>
    match cs with
    | [] => []
    | c :: rest => c :: commentFrom (c == '\n') rest
termination_by cs.length
decreasing_by
  · split at _hblank
    · exact length_of_afterBlankLine? _hblank
    · cases _hblank
  · exact Nat.lt_succ_self _

example : commentFrom true " \n\na\n\t\nb \n ".toList = "%\n%\na\n%\nb \n ".toList := by
  decide +kernel

theorem commentFrom_nil (starts : Bool) : commentFrom starts [] = [] := by
  rw [commentFrom]
  split
  · rename_i rest hblank
    cases starts <;> cases hblank
  · rfl

theorem commentFrom_false_cons (c : Char) (cs : List Char) :
    commentFrom false (c :: cs) = c :: commentFrom (c == '\n') cs := by
  rw [commentFrom]
  split
  · rename_i rest hblank
    cases hblank
  · rfl

theorem commentFrom_of_some {cs rest : List Char} (h : afterBlankLine? cs = some rest) :
    commentFrom true cs = '%' :: '\n' :: commentFrom true rest := by
  rw [commentFrom]
  split
  · rename_i rest' hblank
    rw [if_pos rfl, h] at hblank
    cases hblank
    rfl
  · rename_i hblank
    rw [if_pos rfl, h] at hblank
    cases hblank

theorem commentFrom_of_none {cs : List Char} (h : afterBlankLine? cs = none) :
    commentFrom true cs = commentFrom false cs := by
  cases cs with
  | nil => rw [commentFrom_nil, commentFrom_nil]
  | cons c cs =>
    rw [commentFrom_false_cons, commentFrom]
    split
    · rename_i rest hblank
      rw [if_pos rfl, h] at hblank
      cases hblank
    · rfl

/-! ### Line by line -/

section

variable {line : List Char}

theorem isBlankLine_cons (c : Char) (line : List Char) :
    isBlankLine (c :: line) = ((c == ' ' || c == '\t') && isBlankLine line) := rfl

theorem afterBlankLine?_line (h : '\n' ∉ line) (rest : List Char) :
    afterBlankLine? (line ++ '\n' :: rest) = if isBlankLine line then some rest else none := by
  induction line with
  | nil => rfl
  | cons c line ih =>
    rw [List.mem_cons, not_or] at h
    rw [List.cons_append, afterBlankLine?, if_neg (Ne.symm h.1), ih h.2, isBlankLine_cons]
    by_cases hc : c = ' ' ∨ c = '\t' <;> simp [hc]

theorem afterBlankLine?_last (h : '\n' ∉ line) : afterBlankLine? line = none := by
  induction line with
  | nil => rfl
  | cons c line ih =>
    rw [List.mem_cons, not_or] at h
    rw [afterBlankLine?, if_neg (Ne.symm h.1), ih h.2, ite_self]

/-- Inside a line nothing happens up to its end. -/
theorem commentFrom_false_line (h : '\n' ∉ line) (rest : List Char) :
    commentFrom false (line ++ '\n' :: rest) = line ++ '\n' :: commentFrom true rest := by
  induction line with
  | nil => exact commentFrom_false_cons '\n' rest
  | cons c line ih =>
    rw [List.mem_cons, not_or] at h
    rw [List.cons_append, commentFrom_false_cons, beq_false_of_ne (Ne.symm h.1), ih h.2]
    rfl

theorem commentFrom_false_last (h : '\n' ∉ line) : commentFrom false line = line := by
  induction line with
  | nil => exact commentFrom_nil false
  | cons c line ih =>
    rw [List.mem_cons, not_or] at h
    rw [commentFrom_false_cons, beq_false_of_ne (Ne.symm h.1), ih h.2]

theorem commentFrom_line (h : '\n' ∉ line) (rest : List Char) :
    commentFrom true (line ++ '\n' :: rest) = commentLine line ++ '\n' :: commentFrom true rest := by
  have hafter := afterBlankLine?_line h rest
  unfold commentLine
  split at hafter
  · rename_i hblank
    rw [commentFrom_of_some hafter, if_pos hblank]
    rfl
  · rename_i hblank
    rw [commentFrom_of_none hafter, commentFrom_false_line h, if_neg hblank]

end

theorem unlines_commentBlanks_cons (line next : List Char) (rest : List (List Char)) :
    Text.unlines (commentBlanks (line :: next :: rest)) =
      commentLine line ++ '\n' :: Text.unlines (commentBlanks (next :: rest)) := by
  obtain ⟨first, others, hothers⟩ : ∃ first others, commentBlanks (next :: rest) = first :: others := by
    cases rest <;> exact ⟨_, _, rfl⟩
  have hcons : commentBlanks (line :: next :: rest) =
      commentLine line :: commentBlanks (next :: rest) := rfl
  rw [hcons, hothers]
  rfl

theorem commentFrom_unlines {ls : List (List Char)} (h : ∀ line ∈ ls, '\n' ∉ line) :
    commentFrom true (Text.unlines ls) = Text.unlines (commentBlanks ls) := by
  match ls with
  | [] => exact commentFrom_nil true
  | [last] =>
    have hlast : '\n' ∉ last := h last (List.mem_singleton.2 rfl)
    exact (commentFrom_of_none (afterBlankLine?_last hlast)).trans (commentFrom_false_last hlast)
  | line :: next :: rest =>
    rw [List.forall_mem_cons] at h
    have hsource : Text.unlines (line :: next :: rest) =
        line ++ '\n' :: Text.unlines (next :: rest) := rfl
    rw [hsource, commentFrom_line h.1, commentFrom_unlines h.2, unlines_commentBlanks_cons]

theorem argument_eq_commentFrom (cs : List Char) :
    argument cs = commentFrom true (Text.strip cs) := by
  have hfeeds : ∀ line ∈ Text.lines (Text.strip cs), '\n' ∉ line := fun line hline =>
    Text.newline_notMem_of_mem_lines hline
  have hlines := commentFrom_unlines hfeeds
  rw [Text.unlines_lines] at hlines
  rw [argument, hlines]

/-! ### Doing it again -/

theorem argument_eq_unlines {cs : List Char} (h : Text.strip cs ≠ []) :
    argument cs = Text.unlines ((Text.lines (Text.strip cs)).map commentLine) := by
  rw [argument, commentBlanks_eq_map fun line hline => isBlankLine_of_getLast?_lines_strip h hline]

theorem commentLine_of_not_blank {line : List Char} (h : isBlankLine line = false) :
    commentLine line = line := by
  rw [commentLine, h]
  rfl

theorem head?_argument (cs : List Char) : (argument cs).head? = (Text.strip cs).head? := by
  by_cases h : Text.strip cs = []
  · rw [argument_eq_nil h, h]
  · obtain ⟨c, hhead, hblank⟩ := Text.exists_head?_strip h
    obtain ⟨rest, hstrip⟩ := List.head?_eq_some_iff.1 hhead
    have hnone : afterBlankLine? (c :: rest) = none := by
      rw [afterBlankLine?, if_neg, if_neg]
      · rintro (rfl | rfl) <;> exact absurd hblank (by decide)
      · rintro rfl
        exact absurd hblank (by decide)
    rw [argument_eq_commentFrom, hstrip, commentFrom_of_none hnone, commentFrom_false_cons]
    rfl

/-- The last line stays, and so does the line feed before it. -/
theorem getLast?_unlines_commentBlanks (ls : List (List Char)) :
    (Text.unlines (commentBlanks ls)).getLast? = (Text.unlines ls).getLast? := by
  match ls with
  | [] => rfl
  | [last] => rfl
  | line :: next :: rest =>
    have hsource : Text.unlines (line :: next :: rest) =
        line ++ '\n' :: Text.unlines (next :: rest) := rfl
    rw [hsource, unlines_commentBlanks_cons, List.getLast?_append_cons, List.getLast?_append_cons,
      List.getLast?_cons, List.getLast?_cons, getLast?_unlines_commentBlanks (next :: rest)]

theorem getLast?_argument (cs : List Char) : (argument cs).getLast? = (Text.strip cs).getLast? := by
  rw [argument, getLast?_unlines_commentBlanks, Text.unlines_lines]

theorem strip_argument (cs : List Char) : Text.strip (argument cs) = argument cs := by
  by_cases h : Text.strip cs = []
  · rw [argument_eq_nil h]
    rfl
  · obtain ⟨first, hfirst, hfirstBlank⟩ := Text.exists_head?_strip h
    obtain ⟨last, hlast, hlastBlank⟩ := Text.exists_getLast?_strip h
    rw [← head?_argument] at hfirst
    rw [← getLast?_argument] at hlast
    exact Text.strip_eq_self hfirst hlast hfirstBlank hlastBlank

theorem argument_argument (cs : List Char) : argument (argument cs) = argument cs := by
  by_cases h : Text.strip cs = []
  · rw [argument_eq_nil h]
    rfl
  · have hagain : Text.strip (argument cs) ≠ [] := by
      intro hnil
      rw [strip_argument] at hnil
      have hhead := head?_argument cs
      rw [hnil, List.head?_nil] at hhead
      exact h (List.head?_eq_none_iff.1 hhead.symm)
    have hlines : (Text.lines (argument cs)).map commentLine = Text.lines (argument cs) := by
      rw [lines_argument h, List.map_map]
      refine List.map_congr_left fun line _ => ?_
      exact commentLine_of_not_blank (isBlankLine_commentLine line)
    rw [argument_eq_unlines hagain, strip_argument, hlines, Text.unlines_lines]

/-- A command argument is the stripped fragment with a lone comment in the place of every line that
is empty or holds spaces and tabs alone, which is what comes of going through it from left to right
and replacing every such line where it starts. It has no such line, as many lines as the stripped
fragment, the others of them in their places, and the same ends; and it is its own argument. -/
theorem argument_filters_lines (cs : List Char) :
    argument cs = commentFrom true (Text.strip cs) ∧
    argument cs = (if Text.strip cs = [] then []
      else Text.unlines ((Text.lines (Text.strip cs)).map commentLine)) ∧
    (argument cs ≠ [] → ∀ line ∈ Text.lines (argument cs), isBlankLine line = false) ∧
    (Text.lines (argument cs)).length = (Text.lines (Text.strip cs)).length ∧
    (∀ (i : Nat) (line : List Char), (Text.lines (Text.strip cs))[i]? = some line →
      isBlankLine line = false → (Text.lines (argument cs))[i]? = some line) ∧
    (argument cs).head? = (Text.strip cs).head? ∧
    (argument cs).getLast? = (Text.strip cs).getLast? ∧
    argument (argument cs) = argument cs := by
  refine ⟨argument_eq_commentFrom cs, ?_, ?_, ?_, ?_, head?_argument cs, getLast?_argument cs,
    argument_argument cs⟩
  · split
    · exact argument_eq_nil ‹_›
    · exact argument_eq_unlines ‹_›
  · intro hne line hline
    have hstrip : Text.strip cs ≠ [] := fun hnil => hne (argument_eq_nil hnil)
    rw [lines_argument hstrip] at hline
    obtain ⟨source, _, rfl⟩ := List.mem_map.1 hline
    exact isBlankLine_commentLine source
  · by_cases h : Text.strip cs = []
    · rw [argument_eq_nil h, h]
    · rw [lines_argument h, List.length_map]
  · intro i line hline hblank
    by_cases h : Text.strip cs = []
    · rw [argument_eq_nil h, ← h, hline]
    · rw [lines_argument h, List.getElem?_map, hline, Option.map_some,
        commentLine_of_not_blank hblank]

example : argument " \n\ta\n \t\n\n\nb \n\n".toList = "a\n%\n%\n%\nb".toList := by decide

end Latex

end Vitae
