import Vitae.Proofs.Latex.Rendering
import Vitae.Proofs.Text.Lines

/-!
# Lines of a command argument

The lines of a command argument are those of the stripped fragment, with a comment in the place of
every line that is blank. Blank means spaces and tabs, whereas other characters count as white space
when a fragment is stripped: a line of such characters stays. It is the document that has them, for
of white space the renderer itself writes only spaces and line feeds.
-/

namespace Vitae

namespace Latex

/-! ### The lines -/

def commentLine (line : List Char) : List Char := if isBlankLine line then ['%'] else line

theorem isBlankLine_commentLine (line : List Char) : isBlankLine (commentLine line) = false := by
  unfold commentLine
  split
  · rfl
  · rename_i hblank
    exact Bool.eq_false_iff.2 hblank

/-- A line that is not blank ends the lines, so nothing becomes of the last one. -/
theorem commentBlanks_eq_map {ls : List (List Char)}
    (h : ∀ line, ls.getLast? = some line → isBlankLine line = false) :
    commentBlanks ls = ls.map commentLine := by
  match ls with
  | [] => rfl
  | [last] =>
    have hlast : isBlankLine last = false := h last rfl
    simp [commentBlanks, commentLine, hlast]
  | line :: next :: rest =>
    have hrest : commentBlanks (next :: rest) = (next :: rest).map commentLine :=
      commentBlanks_eq_map fun l hl => h l (by rw [List.getLast?_cons_cons, hl])
    have hcons : commentBlanks (line :: next :: rest) =
        commentLine line :: commentBlanks (next :: rest) := rfl
    rw [hcons, hrest, List.map_cons (a := line)]

theorem isBlankLine_of_getLast?_lines_strip {cs line : List Char} (h : Text.strip cs ≠ [])
    (hline : (Text.lines (Text.strip cs)).getLast? = some line) : isBlankLine line = false := by
  obtain ⟨c, hc, hblank⟩ := Text.exists_getLast?_strip h
  have hfeed : c ≠ '\n' := by
    rintro rfl
    exact absurd hblank (by decide)
  obtain ⟨last, hlast, hmem⟩ := Text.exists_getLast?_lines hc hfeed
  have heq : last = line := Option.some.inj (hlast.symm.trans hline)
  subst heq
  refine Bool.eq_false_iff.2 fun hall => ?_
  have hspace := List.all_eq_true.1 hall c hmem
  rw [Bool.or_eq_true, beq_iff_eq, beq_iff_eq] at hspace
  rcases hspace with rfl | rfl
  · exact absurd hblank (by decide)
  · exact absurd hblank (by decide)

theorem argument_eq_nil {cs : List Char} (h : Text.strip cs = []) : argument cs = [] := by
  rw [argument, h]
  rfl

theorem lines_argument {cs : List Char} (h : Text.strip cs ≠ []) :
    Text.lines (argument cs) = (Text.lines (Text.strip cs)).map commentLine := by
  rw [argument, commentBlanks_eq_map fun line hline => isBlankLine_of_getLast?_lines_strip h hline]
  refine Text.lines_unlines ?_ ?_
  · rw [ne_eq, List.map_eq_nil_iff]
    exact Text.lines_ne_nil _
  · intro line hline
    obtain ⟨source, hsource, rfl⟩ := List.mem_map.1 hline
    unfold commentLine
    split
    · decide
    · exact Text.newline_notMem_of_mem_lines hsource

/-! ### White lines -/

/-- Is all of a line white space, as it is stripped? An empty line is. -/
def IsWhite (line : List Char) : Prop := ∀ c ∈ line, Text.isBlank c = true

theorem eq_of_isWhite_commentLine {line : List Char} (h : IsWhite (commentLine line)) :
    commentLine line = line ∧ isBlankLine line = false := by
  unfold commentLine at h ⊢
  split at h
  · exact absurd (h '%' (List.mem_singleton.2 rfl)) (by decide)
  · rename_i hblank
    rw [if_neg hblank]
    exact ⟨rfl, Bool.eq_false_iff.2 hblank⟩

/-- The white lines of an argument are those of the stripped fragment that are not blank. -/
theorem mem_lines_argument_iff {cs line : List Char} (h : argument cs ≠ []) (hwhite : IsWhite line) :
    line ∈ Text.lines (argument cs) ↔
      line ∈ Text.lines (Text.strip cs) ∧ isBlankLine line = false := by
  have hstrip : Text.strip cs ≠ [] := fun hnil => h (argument_eq_nil hnil)
  rw [lines_argument hstrip]
  constructor
  · intro hmem
    obtain ⟨source, hsource, rfl⟩ := List.mem_map.1 hmem
    obtain ⟨heq, hblank⟩ := eq_of_isWhite_commentLine hwhite
    rw [heq]
    exact ⟨hsource, hblank⟩
  · rintro ⟨hmem, hblank⟩
    refine List.mem_map.2 ⟨line, hmem, ?_⟩
    rw [commentLine, if_neg (by rw [hblank]; decide)]

/-! ### White space of a fragment -/

/-- Holds of every character that the renderer writes by itself. -/
structure IsOwnChar (P : Char → Prop) : Prop where
  dark : ∀ c, Text.isBlank c = false → P c
  space : P ' '
  newline : P '\n'

namespace IsOwnChar

variable {P : Char → Prop}

theorem of_all (h : IsOwnChar P) {cs : List Char} (hcs : cs.all (fun c => !Text.isBlank c) = true) :
    ∀ c ∈ cs, P c := by
  intro c hc
  have hdark := List.all_eq_true.1 hcs c hc
  rw [Bool.not_eq_true'] at hdark
  exact h.dark c hdark

theorem escapeChar (h : IsOwnChar P) {c : Char} (hc : P c) : ∀ d ∈ escapeChar c, P d := by
  unfold Latex.escapeChar
  split
  · exact h.of_all (by decide)
  · exact h.of_all (by decide)
  · exact h.of_all (by decide)
  · split
    · exact List.forall_mem_cons.2 ⟨h.dark _ (by decide), List.forall_mem_singleton.2 hc⟩
    · exact List.forall_mem_singleton.2 hc

theorem escapeUrlChar (h : IsOwnChar P) {c : Char} (hc : P c) : ∀ d ∈ escapeUrlChar c, P d := by
  unfold Latex.escapeUrlChar
  split
  · exact List.forall_mem_cons.2 ⟨h.dark _ (by decide), List.forall_mem_singleton.2 hc⟩
  · exact List.forall_mem_singleton.2 hc

theorem text (h : IsOwnChar P) (style : Style) {cs : List Char} (hcs : ∀ c ∈ cs, P c) :
    ∀ d ∈ style.text cs, P d := by
  unfold Style.text
  split
  · exact List.forall_mem_flatMap.2 fun c hc => h.escapeChar (hcs c hc)
  · exact hcs

theorem url (h : IsOwnChar P) (style : Style) {href : Json} (hhref : href.IsAttribute)
    (hchars : ∀ c ∈ href.attributeText, P c) :
    ∃ url, style.url href = .ok url ∧ ∀ d ∈ url, P d := by
  rcases hhref.cases with ⟨hfalse, _⟩ | ⟨htrue, s, rfl, _⟩
  · exact ⟨[], by simp [Style.url, hfalse], by simp⟩
  · refine ⟨if style.escapesUrls then escapeUrl s.toList else s.toList, ?_, ?_⟩
    · simp [Style.url, htrue]
    · split
      · exact List.forall_mem_flatMap.2 fun c hc => h.escapeUrlChar (hchars c hc)
      · exact hchars

theorem braced (h : IsOwnChar P) {body : List Char} (hbody : ∀ c ∈ body, P c) :
    ∀ c ∈ '\x7b' :: (body ++ ['\x7d']), P c := by
  refine List.forall_mem_cons.2 ⟨h.dark _ (by decide), ?_⟩
  exact List.forall_mem_append.2 ⟨hbody, List.forall_mem_singleton.2 (h.dark _ (by decide))⟩

theorem command (h : IsOwnChar P) {name : String} {body : List Char}
    (hname : name.toList.all (fun c => !Text.isBlank c) = true) (hbody : ∀ c ∈ body, P c) :
    ∀ c ∈ command name body, P c := by
  refine List.forall_mem_cons.2 ⟨h.dark _ (by decide), ?_⟩
  exact List.forall_mem_append.2 ⟨h.of_all hname, h.braced hbody⟩

theorem withMark (h : IsOwnChar P) (style : Style) (underline : Bool) {mark : Mark}
    (hmark : mark.HasHref) {body : List Char} (hbody : ∀ c ∈ body, P c)
    (hurl : ∀ url, mark.href? = some url → ∀ c ∈ url, P c) :
    ∃ out, applyMark style underline body mark = .ok out ∧ ∀ c ∈ out, P c := by
  cases mark with
  | bold => exact ⟨_, rfl, h.command (by decide) hbody⟩
  | italic => exact ⟨_, rfl, h.command (by decide) hbody⟩
  | underline => exact ⟨_, rfl, h.command (by decide) hbody⟩
  | link href target className =>
    obtain ⟨url, hok, hchars⟩ := h.url style hmark (hurl href.attributeText rfl)
    refine ⟨_, by simp only [applyMark, hok, bind, Except.bind]; rfl, ?_⟩
    refine List.forall_mem_append.2 ⟨h.command (by decide) hchars, h.braced ?_⟩
    split
    · exact h.command (by decide) hbody
    · exact hbody

theorem marked (h : IsOwnChar P) (style : Style) (underline : Bool) {marks : List Mark}
    (hmarks : ∀ mark ∈ marks, mark.HasHref)
    (hurls : ∀ mark ∈ marks, ∀ url, mark.href? = some url → ∀ c ∈ url, P c) {body : List Char}
    (hbody : ∀ c ∈ body, P c) :
    ∃ out, applyMarks style underline body marks = .ok out ∧ ∀ c ∈ out, P c := by
  induction marks generalizing body with
  | nil => exact ⟨body, rfl, hbody⟩
  | cons mark rest ih =>
    obtain ⟨inner, hinner, hchars⟩ := h.withMark style underline
      (hmarks mark (List.mem_cons_self ..)) hbody (hurls mark (List.mem_cons_self ..))
    obtain ⟨out, hout, hall⟩ := ih (fun m hm => hmarks m (List.mem_cons_of_mem _ hm))
      (fun m hm => hurls m (List.mem_cons_of_mem _ hm)) hchars
    exact ⟨out, by simp only [applyMarks, hinner, hout], hall⟩

theorem closeUp {cs : List Char} (hcs : ∀ c ∈ cs, P c) : ∀ c ∈ closeUp cs, P c := by
  fun_induction Latex.closeUp cs with
  | case1 cs => exact fun c hc => hcs c (List.mem_cons_of_mem _ hc)
  | case2 c cs _ ih =>
    rw [List.forall_mem_cons] at hcs
    exact List.forall_mem_cons.2 ⟨hcs.1, ih hcs.2⟩
  | case3 => exact hcs

theorem environment (h : IsOwnChar P) {name : String} {body : List Char}
    (hname : name.toList.all (fun c => !Text.isBlank c) = true) (hbody : ∀ c ∈ body, P c) :
    ∀ c ∈ environment name body, P c := by
  have hend : ∀ c ∈ Latex.command "end" name.toList ++ ['\n'], P c := List.forall_mem_append.2
    ⟨h.command (by decide) (h.of_all hname), List.forall_mem_singleton.2 h.newline⟩
  refine List.forall_mem_append.2 ⟨h.command (by decide) (h.of_all hname), ?_⟩
  exact List.forall_mem_cons.2 ⟨h.newline, List.forall_mem_append.2 ⟨hbody, hend⟩⟩

theorem enclosed (h : IsOwnChar P) (container : Container Int) (childless : Bool) {body : List Char}
    (hbody : ∀ c ∈ body, P c) : ∀ c ∈ enclose container childless body, P c := by
  cases container with
  | doc => exact hbody
  | paragraph =>
    cases childless with
    | true => exact List.forall_mem_singleton.2 h.newline
    | false =>
      have hfeeds : ∀ c ∈ ['\n', '\n'], P c :=
        List.forall_mem_cons.2 ⟨h.newline, List.forall_mem_singleton.2 h.newline⟩
      exact List.forall_mem_append.2 ⟨hbody, hfeeds⟩
  | bulletList => exact h.environment (by decide) hbody
  | orderedList start => exact h.environment (by decide) hbody
  | listItem =>
    have hitem : ∀ c ∈ "\\item ".toList, P c := by
      have hword : ∀ c ∈ "\\item".toList, P c := h.of_all (by decide)
      exact List.forall_mem_append.2 ⟨hword, List.forall_mem_singleton.2 h.space⟩
    exact List.forall_mem_append.2 ⟨hitem, closeUp hbody⟩

mutual

/-- What holds of the renderer's own characters and of those that a document brings holds of all
that is rendered. -/
theorem render (h : IsOwnChar P) (style : Style) (underline : Bool) : (node : Node) →
    (∀ mark ∈ node.marks, mark.HasHref) → (∀ c ∈ node.plainText, P c) →
    (∀ mark ∈ node.marks, ∀ url, mark.href? = some url → ∀ c ∈ url, P c) →
    ∃ out, render style underline node = .ok out ∧ ∀ c ∈ out, P c
  | .text content marks, hmarks, htext, hurls => by
    have hown : (Node.text content marks).marks = marks := by simp [Node.marks, Node.leaves]
    have hcontent : (Node.text content marks).plainText = content.toList := by
      simp [Node.plainText, Node.leaves]
    rw [hown] at hmarks hurls
    rw [hcontent] at htext
    exact h.marked style underline hmarks hurls (h.text style htext)
  | .branch container children, hmarks, htext, hurls => by
    rw [Node.marks_branch, List.forall_mem_flatMap] at hmarks hurls
    rw [Node.plainText_branch, List.forall_mem_flatMap] at htext
    obtain ⟨body, hbody, hchars⟩ := h.renderAll style underline children hmarks htext hurls
    exact ⟨_, by rw [Latex.render, hbody]; rfl, h.enclosed container children.isEmpty hchars⟩

theorem renderAll (h : IsOwnChar P) (style : Style) (underline : Bool) : (nodes : List Node) →
    (∀ node ∈ nodes, ∀ mark ∈ node.marks, mark.HasHref) →
    (∀ node ∈ nodes, ∀ c ∈ node.plainText, P c) →
    (∀ node ∈ nodes, ∀ mark ∈ node.marks, ∀ url, mark.href? = some url → ∀ c ∈ url, P c) →
    ∃ out, renderAll style underline nodes = .ok out ∧ ∀ c ∈ out, P c
  | [], _, _, _ => ⟨[], rfl, by simp⟩
  | child :: rest, hmarks, htext, hurls => by
    rw [List.forall_mem_cons] at hmarks htext hurls
    obtain ⟨first, hfirst, hchars⟩ := h.render style underline child hmarks.1 htext.1 hurls.1
    obtain ⟨others, hothers, hall⟩ := h.renderAll style underline rest hmarks.2 htext.2 hurls.2
    exact ⟨first ++ others, by rw [Latex.renderAll, hfirst, hothers]; rfl,
      List.forall_mem_append.2 ⟨hchars, hall⟩⟩

end

end IsOwnChar

/-! ### The whole -/

/-- Does a document bring a character, in a text or in the destination of a link? -/
def Brings (node : Node) (c : Char) : Prop :=
  c ∈ node.plainText ∨ ∃ mark ∈ node.marks, ∃ url, mark.href? = some url ∧ c ∈ url

theorem exists_of_isBlankLine_eq_false {line : List Char} (h : isBlankLine line = false) :
    ∃ c ∈ line, c ≠ ' ' ∧ c ≠ '\t' := by
  obtain ⟨c, hc, hother⟩ := List.all_eq_false.1 h
  rw [Bool.or_eq_true, beq_iff_eq, beq_iff_eq, not_or] at hother
  exact ⟨c, hc, hother⟩

end Latex

/-- A fragment of a document whose links have proper destinations, fit for the argument of a
command, has no line of spaces and tabs alone. The lines of white space that it has are those of the
stripped fragment with some other white space, and that is brought by the document. -/
theorem lines_argument_generate (o : Options) (value : Json) (context : Context) (node : Node)
    (hcontext : Context.ofValue value = .ok context)
    (hhrefs : ∀ mark ∈ node.marks, mark.HasHref) :
    ∃ out, Writer.generate ⟨.latex, o⟩ value node = .ok out ∧
      (Latex.argument out.toList ≠ [] → ∀ line,
        (line ∈ Text.lines (Latex.argument out.toList) → Latex.isBlankLine line = false) ∧
        (Latex.IsWhite line →
          (line ∈ Text.lines (Latex.argument out.toList) ↔
            line ∈ Text.lines (Text.strip out.toList) ∧
              ∃ c ∈ line, c ≠ ' ' ∧ c ≠ '\t' ∧ Latex.Brings node c))) := by
  have hown : Latex.IsOwnChar fun c =>
      Text.isBlank c = true → c = ' ' ∨ c = '\n' ∨ Latex.Brings node c :=
    ⟨fun c hdark hblank => absurd hblank (by rw [hdark]; decide), fun _ => Or.inl rfl,
      fun _ => Or.inr (Or.inl rfl)⟩
  obtain ⟨out, hout, hchars⟩ := hown.render (latexStyle o) context.linkUnderline node hhrefs
    (fun c hc _ => Or.inr (Or.inr (Or.inl hc)))
    (fun mark hmark url hurl c hc _ => Or.inr (Or.inr (Or.inr ⟨mark, hmark, url, hurl, hc⟩)))
  refine ⟨String.ofList out, ?_, ?_⟩
  · simp only [Writer.generate, hcontext, Writer.write, hout]
    rfl
  · rw [String.toList_ofList]
    intro hne line
    constructor
    · intro hline
      have hstrip : Text.strip out ≠ [] := fun hnil => hne (Latex.argument_eq_nil hnil)
      rw [Latex.lines_argument hstrip] at hline
      obtain ⟨source, _, rfl⟩ := List.mem_map.1 hline
      exact Latex.isBlankLine_commentLine source
    · intro hwhite
      rw [Latex.mem_lines_argument_iff hne hwhite]
      refine and_congr_right fun hline => ⟨fun hblank => ?_, ?_⟩
      · obtain ⟨c, hc, hspace, htab⟩ := Latex.exists_of_isBlankLine_eq_false hblank
        have hmem : c ∈ out := Text.mem_of_mem_strip (Text.mem_of_mem_lines hline hc)
        rcases hchars c hmem (hwhite c hc) with rfl | rfl | hbrings
        · exact absurd rfl hspace
        · exact absurd hc (Text.newline_notMem_of_mem_lines hline)
        · exact ⟨c, hc, hspace, htab, hbrings⟩
      · rintro ⟨c, hc, hspace, htab, _⟩
        refine List.all_eq_false.2 ⟨c, hc, ?_⟩
        rw [Bool.or_eq_true, beq_iff_eq, beq_iff_eq]
        exact fun h => h.elim hspace htab

/-- A line that is one wide space stays where a blank line becomes a comment. -/
theorem lines_argument_generate_wide :
    ∃ out, Writer.generate ⟨.latex, .default .latexWriter⟩ .null
        (Node.doc [.branch .paragraph [.text "a\n\u2003\n \nb" [.link .null .null .null]]]) = .ok out ∧
      ['\u2003'] ∈ Text.lines (Latex.argument out.toList) ∧
      [' '] ∉ Text.lines (Latex.argument out.toList) := by
  obtain ⟨out, hout, hlines⟩ := lines_argument_generate (.default .latexWriter) .null {}
    (Node.doc [.branch .paragraph [.text "a\n\u2003\n \nb" [.link .null .null .null]]]) rfl (by
      intro mark hmark
      simp only [Node.marks, Node.leaves, Node.allLeaves, Node.doc, List.append_nil,
        List.flatMap_cons, List.flatMap_nil, List.mem_cons, List.not_mem_nil, or_false] at hmark
      rw [hmark]
      exact Or.inl rfl)
  have heq : out = "\\href\x7b\x7d\x7ba\n\u2003\n \nb\x7d\n\n" :=
    Except.ok.inj (hout.symm.trans (by rfl))
  subst heq
  have hne : Latex.argument "\\href\x7b\x7d\x7ba\n\u2003\n \nb\x7d\n\n".toList ≠ [] := by decide
  have hwhite : Latex.IsWhite ['\u2003'] := List.forall_mem_singleton.2 (by decide)
  refine ⟨_, hout, ((hlines hne _).2 hwhite).2 ⟨by decide, '\u2003', ?_⟩, fun hspace => ?_⟩
  · exact ⟨by decide, by decide, by decide, Or.inl (by decide)⟩
  · exact absurd ((hlines hne [' ']).1 hspace) (by decide)

/-- A line that is one no-break space is white space, and no comment takes its place. -/
theorem exists_isWhite_line_argument :
    Writer.generate ⟨.latex, .default .latexWriter⟩ .null
        (Node.doc [.branch .paragraph [.text "a\n\u00a0\nb" []]]) = .ok "a\n\u00a0\nb\n\n" ∧
      Latex.argument "a\n\u00a0\nb\n\n".toList ≠ [] ∧
      ∃ line ∈ Text.lines (Latex.argument "a\n\u00a0\nb\n\n".toList), Latex.IsWhite line :=
  ⟨rfl, by decide, ['\u00a0'], by decide, List.forall_mem_singleton.2 (by decide)⟩

end Vitae
