import Vitae.Proofs.Latex.Rendering
import Vitae.Proofs.Rendering

/-!
# The lexemes of a rendered document

Which lexemes a rendered document has, as a function of the document. It follows the renderer node
by node; closing up an item takes one of the first two adjacent line feeds out of its lexemes, which
is the same as taking it out of its text, because the renderer never escapes a line feed.
-/

namespace Vitae.Latex

/-! ### Closing up lexemes -/

def feed : Lexeme := .char '\n'

/-- Lexemes in which the first blank line is closed up: of the first two adjacent line feeds one
goes. -/
def tighten : List Lexeme → List Lexeme
  | .char '\n' :: .char '\n' :: ls => .char '\n' :: ls
  | l :: ls => l :: tighten ls
  | [] => []

theorem tighten_cons {l : Lexeme} {ls : List Lexeme}
    (h : ¬ (l = feed ∧ ls.head? = some feed)) : tighten (l :: ls) = l :: tighten ls := by
  rw [tighten]
  rintro rest rfl rfl
  exact h ⟨rfl, rfl⟩

theorem tighten_append {pre : List Lexeme} (hpre : feed ∉ pre) (ls : List Lexeme) :
    tighten (pre ++ ls) = pre ++ tighten ls := by
  induction pre with
  | nil => rfl
  | cons l pre ih =>
    rw [List.mem_cons, not_or] at hpre
    rw [List.cons_append, tighten_cons fun h => hpre.1 h.1.symm, ih hpre.2, List.cons_append]

/-- Closing up does nothing, or takes out one of two adjacent line feeds. -/
theorem tighten_cases (ls : List Lexeme) :
    tighten ls = ls ∨
      ∃ before after, ls = before ++ feed :: feed :: after ∧
        tighten ls = before ++ feed :: after := by
  induction ls using tighten.induct with
  | case1 ls => exact Or.inr ⟨[], ls, rfl, by rw [tighten]; rfl⟩
  | case2 l ls hne ih =>
    rw [tighten]
    · rcases ih with hsame | ⟨before, after, hbefore, hafter⟩
      · exact Or.inl (by rw [hsame])
      · refine Or.inr ⟨l :: before, after, ?_, ?_⟩
        · rw [hbefore, List.cons_append]
        · rw [hafter, List.cons_append]
    · exact hne
  | case3 => exact Or.inl rfl

/-! ### Closing up a text -/

/-- After an unfinished control sequence a character does not come first. -/
theorem head?_lexerRun_ne_char {state : LexerState} (h : state ≠ .text) (cs : List Char) (c : Char) :
    (lexerRun state cs).1.head? ≠ some (.char c) := by
  induction cs generalizing state with
  | nil => simp [lexerRun]
  | cons d cs ih =>
    rw [lexerRun_cons]
    cases state with
    | text => exact absurd rfl h
    | slash =>
      by_cases hd : d.isAlpha
      · have hword : LexerState.word [d] ≠ .text := by simp
        simpa [lexerStep, hd] using ih hword
      · simp [lexerStep, hd]
    | word letters =>
      by_cases hd : d.isAlpha
      · have hword : LexerState.word (d :: letters) ≠ .text := by simp
        simpa [lexerStep, hd] using ih hword
      · simp [lexerStep, hd]

theorem head?_lexerRun_ne_feed {cs : List Char} (h : cs.head? ≠ some '\n') :
    (lexerRun .text cs).1.head? ≠ some feed := by
  cases cs with
  | nil => simp [lexerRun]
  | cons c cs =>
    rw [lexerRun_cons]
    by_cases hslash : c = '\\'
    · have hrest : (lexerRun .slash cs).1.head? ≠ some (.char '\n') :=
        head?_lexerRun_ne_char (by decide) cs '\n'
      simpa [lexerStep, textStep, hslash, feed] using hrest
    · simpa [lexerStep, textStep, hslash, feed] using fun hc : c = '\n' => h (by rw [hc]; rfl)

/-- A line feed that is not escaped ends what stands before it, whatever comes after it. -/
theorem lexerRun_feed {state : LexerState} (h : .symbol '\n' ∉ (lexerStep state '\n').1) :
    ∃ pre, feed ∉ pre ∧ ∀ cs, lexerRun state ('\n' :: cs) =
      (pre ++ feed :: (lexerRun .text cs).1, (lexerRun .text cs).2) := by
  cases state with
  | text => exact ⟨[], by simp, fun _ => rfl⟩
  | slash => exact absurd (List.mem_singleton_self _) h
  | word letters => exact ⟨[.word letters.reverse], by simp [feed], fun _ => rfl⟩

theorem feed_notMem_lexerStep {c : Char} (h : c ≠ '\n') (state : LexerState) :
    feed ∉ (lexerStep state c).1 := by
  have htext : feed ∉ (textStep c).1 := by
    unfold textStep
    split
    · simp
    · simpa [feed] using Ne.symm h
  cases state with
  | text => exact htext
  | slash =>
    by_cases hc : c.isAlpha <;> simp [lexerStep, hc, feed]
  | word letters =>
    by_cases hc : c.isAlpha
    · simp [lexerStep, hc]
    · simpa [lexerStep, hc, feed] using htext

/-- Where no line feed is escaped, closing up a text closes up its lexemes. -/
theorem lexerRun_tighten {state : LexerState} {cs : List Char}
    (h : .symbol '\n' ∉ (lexerRun state cs).1) :
    lexerRun state (closeUp cs) = (tighten (lexerRun state cs).1, (lexerRun state cs).2) := by
  induction cs using closeUp.induct generalizing state with
  | case1 cs =>
    rw [lexerRun_cons, List.mem_append, not_or] at h
    obtain ⟨pre, hpre, hrun⟩ := lexerRun_feed h.1
    have hnext : lexerRun .text ('\n' :: cs) =
        (feed :: (lexerRun .text cs).1, (lexerRun .text cs).2) := rfl
    have htighten (ls : List Lexeme) : tighten (feed :: feed :: ls) = feed :: ls := by
      rw [feed, tighten]
    rw [closeUp, hrun, hrun, hnext, tighten_append hpre, htighten]
  | case2 c cs hne ih =>
    have hclose : closeUp (c :: cs) = c :: closeUp cs := by
      rw [closeUp]
      exact hne
    rw [lexerRun_cons, List.mem_append, not_or] at h
    by_cases hc : c = '\n'
    · subst hc
      obtain ⟨pre, hpre, hrun⟩ := lexerRun_feed h.1
      have hhead : cs.head? ≠ some '\n' := by
        intro hhead
        obtain ⟨rest, rfl⟩ := List.head?_eq_some_iff.1 hhead
        exact hne rest rfl rfl
      have hfeeds : .symbol '\n' ∉ (lexerRun .text cs).1 := lexerStep_newline state ▸ h.2
      rw [hclose, hrun, hrun, ih hfeeds, tighten_append hpre,
        tighten_cons fun hfeed => head?_lexerRun_ne_feed hhead hfeed.2]
    · rw [hclose, lexerRun_cons, lexerRun_cons, ih h.2,
        tighten_append (feed_notMem_lexerStep hc state)]
  | case3 => rfl

/-! ### Texts and their lexemes -/

/-- A text that leaves no control sequence open and has no escaped line feed, and its lexemes. -/
structure Spells (out : List Char) (lexemes : List Lexeme) : Prop where
  lexes : LexesTo out lexemes
  feeds : .symbol '\n' ∉ lexemes

namespace Spells

variable {as bs : List Char} {lexemes more : List Lexeme}

theorem nil : Spells [] [] := ⟨rfl, by simp⟩

theorem append (ha : Spells as lexemes) (hb : Spells bs more) : Spells (as ++ bs) (lexemes ++ more) where
  lexes := ha.lexes.append hb.lexes
  feeds hmem := (List.mem_append.1 hmem).elim ha.feeds hb.feeds

theorem char {c : Char} (h : c ≠ '\\') : Spells [c] [.char c] := ⟨lexesTo_char h, by simp⟩

theorem closeUp (h : Spells as lexemes) : Spells (closeUp as) (tighten lexemes) where
  lexes := by
    have hrun := h.lexes
    rw [LexesTo] at hrun ⊢
    rw [lexerRun_tighten (by rw [hrun]; exact h.feeds), hrun]
  feeds hmem := by
    rcases tighten_cases lexemes with hsame | ⟨before, after, hbefore, hafter⟩
    · exact h.feeds (hsame ▸ hmem)
    · refine h.feeds ?_
      rw [hafter] at hmem
      rw [hbefore]
      simp only [List.mem_append, List.mem_cons] at hmem ⊢
      grind

end Spells

/-! ### Lexemes of nodes -/

def braced (body : List Lexeme) : List Lexeme := .char '\x7b' :: (body ++ [.char '\x7d'])

/-- A control word and its argument. -/
def worded (word : String) (body : List Lexeme) : List Lexeme := .word word.toList :: braced body

def escapedLexemes : Char → List Lexeme
  | '\\' => worded "textbackslash" []
  | '~' => worded "textasciitilde" []
  | '^' => worded "textasciicircum" []
  | c =>
    if c = '\x7b' ∨ c = '\x7d' ∨ c = '$' ∨ c = '%' ∨ c = '&' ∨ c = '#' ∨ c = '_' then [.symbol c]
    else [.char c]

def markLexemes (underline : Bool) (body : List Lexeme) : Mark → List Lexeme
  | .bold => worded "textbf" body
  | .italic => worded "textit" body
  | .underline => worded "underline" body
  | .link href _ _ =>
    worded "href" (href.attributeText.map urlLexeme) ++
      braced (if underline then worded "underline" body else body)

def leafLexemes (underline : Bool) (content : String) (marks : List Mark) : List Lexeme :=
  marks.foldl (markLexemes underline) (content.toList.flatMap escapedLexemes)

def environmentLexemes (name : String) (body : List Lexeme) : List Lexeme :=
  worded "begin" (name.toList.map .char) ++
    feed :: (body ++ (worded "end" (name.toList.map .char) ++ [feed]))

def itemLexemes : List Lexeme := [.word "item".toList, .char ' ']

def enclosedLexemes : Container Int → Bool → List Lexeme → List Lexeme
  | .doc, _, body => body
  | .paragraph, childless, body => if childless then [feed] else body ++ [feed, feed]
  | .bulletList, _, body => environmentLexemes "itemize" body
  | .orderedList _, _, body => environmentLexemes "enumerate" body
  | .listItem, _, body => itemLexemes ++ tighten body

mutual

/-- The lexemes of a node where text and destinations are escaped. -/
def nodeLexemes (underline : Bool) : Node → List Lexeme
  | .text content marks => leafLexemes underline content marks
  | .branch container children =>
    enclosedLexemes container children.isEmpty (allLexemes underline children)

def allLexemes (underline : Bool) : List Node → List Lexeme
  | [] => []
  | child :: rest => nodeLexemes underline child ++ allLexemes underline rest

end

theorem allLexemes_eq_flatMap (underline : Bool) (nodes : List Node) :
    allLexemes underline nodes = nodes.flatMap (nodeLexemes underline) := by
  induction nodes with
  | nil => rfl
  | cons child rest ih => rw [allLexemes, ih, List.flatMap_cons]

/-! ### Rendering gives these lexemes -/

namespace Spells

variable {body : List Char} {lexemes : List Lexeme}

theorem command (h : Spells body lexemes) (name : String) (hown : name.toList ∈ ownWords) :
    Spells (command name body) (worded name lexemes) := by
  obtain ⟨hletters, hne⟩ := isAlpha_of_mem_ownWords hown
  have hword : Spells ('\\' :: (name.toList ++ ['\x7b'])) [.word name.toList, .char '\x7b'] :=
    ⟨lexesTo_word hletters hne rfl (by decide), by simp⟩
  have hall := hword.append (h.append (.char (c := '\x7d') (by decide)))
  simpa only [Latex.command, worded, braced, List.cons_append, List.append_assoc,
    List.nil_append] using hall

theorem escapeChar (c : Char) : Spells (escapeChar c) (escapedLexemes c) := by
  unfold Latex.escapeChar
  split
  · exact Spells.nil.command "textbackslash" (by decide)
  · exact Spells.nil.command "textasciitilde" (by decide)
  · exact Spells.nil.command "textasciicircum" (by decide)
  · rename_i hslash htilde hcaret
    rw [escapedLexemes]
    · split
      · rename_i hspecial
        have hletter : c.isAlpha = false := by
          rcases hspecial with rfl | rfl | rfl | rfl | rfl | rfl | rfl <;> rfl
        have hfeed : c ≠ '\n' := by
          rintro rfl
          exact absurd hspecial (by decide)
        exact ⟨lexesTo_symbol hletter, by simpa using hfeed.symm⟩
      · exact .char hslash
    · exact hslash
    · exact htilde
    · exact hcaret

theorem escape (cs : List Char) : Spells (escape cs) (cs.flatMap escapedLexemes) := by
  induction cs with
  | nil => exact .nil
  | cons c cs ih => exact (escapeChar c).append ih

theorem escapeUrl (cs : List Char) : Spells (escapeUrl cs) (cs.map urlLexeme) := by
  refine ⟨lexesTo_escapeUrl cs, fun hmem => ?_⟩
  obtain ⟨c, -, hc⟩ := List.mem_map.1 hmem
  unfold urlLexeme at hc
  split at hc
  · rename_i hspecial
    obtain rfl := Lexeme.symbol.inj hc
    exact absurd hspecial (by decide)
  · cases hc

theorem environment (h : Spells body lexemes) {name : String}
    (hname : name = "itemize" ∨ name = "enumerate") :
    Spells (environment name body) (environmentLexemes name lexemes) := by
  have hletters : Spells name.toList (name.toList.map .char) := by
    rcases hname with rfl | rfl <;> exact ⟨rfl, by decide⟩
  have hfeed : Spells ['\n'] [feed] := .char (by decide)
  have hbegin := hletters.command "begin" (by decide)
  have hend := hletters.command "end" (by decide)
  exact hbegin.append (hfeed.append (h.append (hend.append hfeed)))

end Spells

theorem url_of_isWritable (escapesText : Bool) {href : Json} (h : href.IsWritable) :
    Style.url ⟨escapesText, true⟩ href = .ok (escapeUrl href.attributeText) := by
  by_cases htruthy : href.truthy = true
  · obtain ⟨s, rfl⟩ := h htruthy
    exact url_eq escapesText (Or.inr ⟨s, rfl⟩)
  · have htext : href.attributeText = [] := by
      cases href with
      | str s => simpa [Json.truthy, Json.attributeText] using htruthy
      | _ => simp [Json.attributeText]
    unfold Style.url
    rw [if_neg htruthy, htext]
    rfl

theorem Spells.withMark {body : List Char} {lexemes : List Lexeme} (h : Spells body lexemes)
    (underline : Bool) {mark : Mark} (hmark : mark.IsLatex) :
    ∃ out, applyMark ⟨true, true⟩ underline body mark = .ok out ∧
      Spells out (markLexemes underline lexemes mark) := by
  cases mark with
  | bold => exact ⟨_, rfl, h.command "textbf" (by decide)⟩
  | italic => exact ⟨_, rfl, h.command "textit" (by decide)⟩
  | underline => exact ⟨_, rfl, h.command "underline" (by decide)⟩
  | link href target className =>
    have hinner : Spells (if underline then Latex.command "underline" body else body)
        (if underline then worded "underline" lexemes else lexemes) := by
      cases underline with
      | false => exact h
      | true => exact h.command "underline" (by decide)
    have hurl := (Spells.escapeUrl href.attributeText).command "href" (by decide)
    have hopen : Spells ['\x7b'] [.char '\x7b'] := .char (by decide)
    have hclose : Spells ['\x7d'] [.char '\x7d'] := .char (by decide)
    refine ⟨_, ?_, hurl.append (hopen.append (hinner.append hclose))⟩
    rw [applyMark, url_of_isWritable true hmark]
    rfl

theorem Spells.marked {marks : List Mark} (hmarks : ∀ mark ∈ marks, mark.IsLatex)
    (underline : Bool) {body : List Char} {lexemes : List Lexeme} (h : Spells body lexemes) :
    ∃ out, applyMarks ⟨true, true⟩ underline body marks = .ok out ∧
      Spells out (marks.foldl (markLexemes underline) lexemes) := by
  induction marks generalizing body lexemes with
  | nil => exact ⟨body, rfl, h⟩
  | cons mark rest ih =>
    obtain ⟨inner, hinner, hspells⟩ := h.withMark underline (hmarks mark (List.mem_cons_self ..))
    obtain ⟨out, hout, hall⟩ := ih (fun m hm => hmarks m (List.mem_cons_of_mem _ hm)) hspells
    exact ⟨out, by simp only [applyMarks, hinner, hout], hall⟩

theorem Spells.enclosed {body : List Char} {lexemes : List Lexeme} (h : Spells body lexemes)
    (container : Container Int) (childless : Bool) :
    Spells (enclose container childless body) (enclosedLexemes container childless lexemes) := by
  have hfeed : Spells ['\n'] [feed] := .char (by decide)
  cases container with
  | doc => exact h
  | paragraph =>
    cases childless with
    | true => exact hfeed
    | false => exact h.append (hfeed.append hfeed)
  | bulletList => exact h.environment (Or.inl rfl)
  | orderedList start => exact h.environment (Or.inr rfl)
  | listItem =>
    have hitem : Spells "\\item ".toList itemLexemes := ⟨rfl, by decide⟩
    exact hitem.append h.closeUp

mutual

/-- A tree whose links have destinations that can be escaped is rendered to a text with the tree's
lexemes. -/
theorem render_spells (underline : Bool) : (node : Node) → (∀ mark ∈ node.marks, mark.IsLatex) →
    ∃ out, render ⟨true, true⟩ underline node = .ok out ∧ Spells out (nodeLexemes underline node)
  | .text content marks, h => by
    have hmarks : ∀ mark ∈ marks, mark.IsLatex := fun m hm =>
      h m (by simpa [Node.marks, Node.leaves] using hm)
    exact (Spells.escape content.toList).marked hmarks underline
  | .branch container children, h => by
    rw [Node.marks_branch] at h
    obtain ⟨body, hbody, hspells⟩ := renderAll_spells underline children
      fun child hchild mark hm => h mark (List.mem_flatMap.2 ⟨child, hchild, hm⟩)
    exact ⟨_, by rw [render, hbody]; rfl, hspells.enclosed container _⟩

theorem renderAll_spells (underline : Bool) : (nodes : List Node) →
    (∀ child ∈ nodes, ∀ mark ∈ child.marks, mark.IsLatex) →
    ∃ out, renderAll ⟨true, true⟩ underline nodes = .ok out ∧
      Spells out (allLexemes underline nodes)
  | [], _ => ⟨[], rfl, .nil⟩
  | child :: rest, h => by
    obtain ⟨first, hfirst, hspells⟩ :=
      render_spells underline child (h child (List.mem_cons_self ..))
    obtain ⟨others, hothers, hall⟩ := renderAll_spells underline rest fun c hc =>
      h c (List.mem_cons_of_mem _ hc)
    exact ⟨first ++ others, by rw [renderAll, hfirst, hothers]; rfl, hspells.append hall⟩

end

/-- What the writer makes of a document, and its lexemes, if the style escapes. -/
theorem generate_lexes {o : Options} {value : Json} {context : Context} {node : Node}
    (hstyle : latexStyle o = ⟨true, true⟩) (hcontext : Context.ofValue value = .ok context)
    (hmarks : ∀ mark ∈ node.marks, mark.IsLatex) :
    ∃ out, Writer.generate ⟨.latex, o⟩ value node = .ok out ∧
      lex out.toList = some (nodeLexemes context.linkUnderline node) := by
  obtain ⟨out, hout, hspells⟩ := render_spells context.linkUnderline node hmarks
  refine ⟨String.ofList out, ?_, ?_⟩
  · simp only [Writer.generate, hcontext, Writer.write, hstyle, hout]
    rfl
  · rw [String.toList_ofList]
    exact hspells.lexes.lex_eq

end Vitae.Latex
