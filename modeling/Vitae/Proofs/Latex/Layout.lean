import Vitae.Proofs.Latex.Lexemes
import Vitae.Proofs.Rules

/-!
# The layout of lists

In the text of a document that keeps to the rules, lists stand on lines of their own. Their commands
begin a line, behind nothing but marks of items that are empty or begin with a list, and those that
open or close an environment end theirs. That every block ends its last line carries this through the
tree, and closing up an item does not break it: the line that goes was an empty one.
-/

namespace Vitae

namespace Latex

/-! ### Places for the commands of lists -/

def environmentWords : List (List Char) := ["begin", "end"].map String.toList

def layoutWords : List (List Char) := "item".toList :: environmentWords

/-- Lexemes after which a command of a list may stand: none, a line feed, or the mark of an item that
stands in such a place itself. -/
inductive Opens : List Lexeme → Prop
  | start : Opens []
  | newline (before : List Lexeme) : Opens (before ++ [feed])
  | item {before : List Lexeme} (h : Opens before) : Opens (before ++ itemLexemes)

namespace Opens

variable {before after : List Lexeme}

theorem append (hbefore : Opens before) (hafter : Opens after) : Opens (before ++ after) := by
  induction hafter with
  | start => rwa [List.append_nil]
  | newline line =>
    rw [← List.append_assoc]
    exact .newline _
  | item _ ih =>
    rw [← List.append_assoc]
    exact .item ih

/-- What stands before a line feed makes no difference. -/
theorem of_append_feed (h : Opens (before ++ feed :: after)) : Opens after := by
  generalize hall : before ++ feed :: after = all at h
  induction h generalizing after with
  | start => simp at hall
  | newline line =>
    rcases List.append_eq_append_iff.1 hall with ⟨more, -, hmore⟩ | ⟨more, -, hmore⟩
    · cases more with
      | nil =>
        cases hmore
        exact .start
      | cons first rest =>
        cases hmore
        exact .newline rest
    · cases more with
      | nil =>
        cases hmore
        exact .start
      | cons first rest => simp at hmore
  | @item line _ ih =>
    have hmark : feed ∉ itemLexemes := by decide
    rcases List.append_eq_append_iff.1 hall with ⟨more, hline, hmore⟩ | ⟨more, -, hmore⟩
    · cases more with
      | nil =>
        rw [List.nil_append] at hmore
        exact absurd (hmore ▸ List.mem_cons_self ..) hmark
      | cons first rest =>
        cases hmore
        exact .item (ih hline.symm)
    · exact absurd (hmore ▸ List.mem_append_right more (List.mem_cons_self ..)) hmark

theorem append_feed (hafter : Opens after) : Opens (before ++ feed :: after) := by
  have hall := (newline before).append hafter
  rwa [List.append_assoc] at hall

theorem drop_feed (h : Opens (before ++ feed :: feed :: after)) :
    Opens (before ++ feed :: after) := by
  have hline : Opens ([] ++ feed :: after) := of_append_feed h
  exact .append_feed (of_append_feed hline)

/-- On one line there are only marks of items. -/
theorem eq_items (h : Opens before) (hfeed : feed ∉ before) :
    ∃ k, before = (List.replicate k itemLexemes).flatten := by
  induction h with
  | start => exact ⟨0, rfl⟩
  | newline line => exact absurd (List.mem_append_right _ (List.mem_singleton_self _)) hfeed
  | item _ ih =>
    obtain ⟨k, hk⟩ := ih fun hmem => hfeed (List.mem_append_left _ hmem)
    exact ⟨k + 1, by rw [List.replicate_succ', List.flatten_append, ← hk]; simp⟩

end Opens

/-- What comes right after the command of a list: a blank or the rest of its line. -/
def followers (name : List Char) : List (List Lexeme) :=
  if name = "item".toList then [[.char ' ']]
  else environments.map fun environment => braced (environment.map .char) ++ [feed]

/-- Does every command of a list stand in its place, with what has to follow behind it? -/
def Laid (lexemes : List Lexeme) : Prop :=
  ∀ before name after, lexemes = before ++ .word name :: after → name ∈ layoutWords →
    Opens before ∧ ∃ next ∈ followers name, next <+: after

/-- Lexemes without any command of a list. -/
def IsInline (lexemes : List Lexeme) : Prop := ∀ name ∈ layoutWords, .word name ∉ lexemes

theorem isInline_nil : IsInline [] := fun _ _ => List.not_mem_nil

theorem isInline_map_char (cs : List Char) : IsInline (cs.map .char) := by simp [IsInline]

theorem isInline_char (c : Char) : IsInline [.char c] := isInline_map_char [c]

theorem IsInline.laid {lexemes : List Lexeme} (h : IsInline lexemes) : Laid lexemes := by
  rintro before name after rfl hname
  exact absurd (List.mem_append_right _ (List.mem_cons_self ..)) (h name hname)

theorem laid_word {name : List Char} {rest : List Lexeme}
    (hrest : IsInline rest) (hnext : ∃ next ∈ followers name, next <+: rest) :
    Laid (.word name :: rest) := by
  intro before other after heq hother
  cases before with
  | nil =>
    cases heq
    exact ⟨.start, hnext⟩
  | cons first more =>
    cases heq
    exact absurd (List.mem_append_right _ (List.mem_cons_self ..)) (hrest other hother)

theorem Laid.append {as bs : List Lexeme} (ha : Laid as) (hopens : Opens as) (hb : Laid bs) :
    Laid (as ++ bs) := by
  intro before name after heq hname
  rcases List.append_eq_append_iff.1 heq with ⟨more, rfl, hbs⟩ | ⟨more, rfl, hbs⟩
  · obtain ⟨hbefore, hafter⟩ := hb more name after hbs hname
    exact ⟨hopens.append hbefore, hafter⟩
  · cases more with
    | nil =>
      obtain ⟨-, hafter⟩ := hb [] name after hbs.symm hname
      rw [List.append_nil] at hopens
      exact ⟨hopens, hafter⟩
    | cons word rest =>
      cases hbs
      obtain ⟨hbefore, next, hnext, hprefix⟩ := ha before name rest rfl hname
      exact ⟨hbefore, next, hnext, hprefix.trans (List.prefix_append rest bs)⟩

/-! ### Leaves -/

theorem IsInline.append {as bs : List Lexeme} (ha : IsInline as) (hb : IsInline bs) :
    IsInline (as ++ bs) := fun name hname hmem =>
  (List.mem_append.1 hmem).elim (ha name hname) (hb name hname)

theorem IsInline.braced {body : List Lexeme} (h : IsInline body) : IsInline (braced body) :=
  (isInline_char '\x7b').append (h.append (isInline_char '\x7d'))

theorem IsInline.worded {body : List Lexeme} (h : IsInline body) {word : String}
    (hword : word.toList ∉ layoutWords) : IsInline (worded word body) := by
  have hname : IsInline [.word word.toList] := by
    intro name hname hmem
    rw [List.mem_singleton] at hmem
    cases hmem
    exact hword hname
  exact hname.append h.braced

theorem isInline_escapedLexemes (c : Char) : IsInline (escapedLexemes c) := by
  unfold escapedLexemes
  split
  · exact isInline_nil.worded (by decide)
  · exact isInline_nil.worded (by decide)
  · exact isInline_nil.worded (by decide)
  · split <;> simp [IsInline]

theorem IsInline.withMark {body : List Lexeme} (h : IsInline body) (underline : Bool) (mark : Mark) :
    IsInline (markLexemes underline body mark) := by
  cases mark with
  | bold => exact h.worded (by decide)
  | italic => exact h.worded (by decide)
  | underline => exact h.worded (by decide)
  | link href target className =>
    have hurl : IsInline (href.attributeText.map urlLexeme) := fun name _ =>
      word_not_mem_map_urlLexeme name _
    have hbody : IsInline (if underline then Latex.worded "underline" body else body) := by
      cases underline with
      | false => exact h
      | true => exact h.worded (by decide)
    exact (hurl.worded (by decide)).append hbody.braced

theorem isInline_leafLexemes (underline : Bool) (content : String) (marks : List Mark) :
    IsInline (leafLexemes underline content marks) := by
  have hcontent : IsInline (content.toList.flatMap escapedLexemes) := by
    intro name hname hmem
    obtain ⟨c, -, hc⟩ := List.mem_flatMap.1 hmem
    exact isInline_escapedLexemes c name hname hc
  unfold leafLexemes
  generalize content.toList.flatMap escapedLexemes = body at hcontent
  induction marks generalizing body with
  | nil => exact hcontent
  | cons mark rest ih => exact ih _ (hcontent.withMark underline mark)

/-! ### Closing up -/

/-- A start with no line feed but as its last lexeme does not end between two line feeds. -/
theorem prefix_drop_feed {next before after : List Lexeme} (hnext : feed ∉ next.dropLast)
    (h : next <+: before ++ feed :: feed :: after) : next <+: before ++ feed :: after := by
  induction before generalizing next with
  | nil =>
    match next, h with
    | [], _ => exact List.nil_prefix
    | [first], h =>
      rw [(List.cons_prefix_cons.1 h).1]
      exact ⟨after, rfl⟩
    | first :: second :: rest, h =>
      rw [(List.cons_prefix_cons.1 h).1] at hnext
      exact absurd (List.mem_cons_self ..) hnext
  | cons l before ih =>
    cases next with
    | nil => exact List.nil_prefix
    | cons first rest =>
      obtain ⟨rfl, hrest⟩ := List.cons_prefix_cons.1 h
      refine List.cons_prefix_cons.2 ⟨rfl, ih ?_ hrest⟩
      cases rest with
      | nil => simp
      | cons second rest => exact fun hmem => hnext (List.mem_cons_of_mem _ hmem)

theorem feed_notMem_dropLast_followers {name : List Char} {next : List Lexeme}
    (h : next ∈ followers name) : feed ∉ next.dropLast := by
  unfold followers at h
  split at h
  · rw [List.mem_singleton.1 h]
    decide
  · obtain ⟨environment, henvironment, rfl⟩ := List.mem_map.1 h
    revert environment
    decide

theorem Laid.drop_feed {before after : List Lexeme} (h : Laid (before ++ feed :: feed :: after)) :
    Laid (before ++ feed :: after) := by
  intro first name rest heq hname
  rcases List.append_eq_append_iff.1 heq with ⟨more, rfl, hmore⟩ | ⟨more, rfl, hmore⟩
  · cases more with
    | nil => cases hmore
    | cons l more =>
      -- the command stands behind the line feeds
      cases hmore
      have hsplit : before ++ feed :: feed :: (more ++ .word name :: rest) =
          (before ++ feed :: feed :: more) ++ .word name :: rest := by simp
      obtain ⟨hopens, hrest⟩ := h _ name rest hsplit hname
      exact ⟨hopens.drop_feed, hrest⟩
  · cases more with
    | nil => cases hmore
    | cons l more =>
      cases hmore
      have hsplit : (first ++ .word name :: more) ++ feed :: feed :: after =
          first ++ .word name :: (more ++ feed :: feed :: after) := by simp
      obtain ⟨hopens, next, hnext, hprefix⟩ := h first name _ hsplit hname
      exact ⟨hopens, next, hnext, prefix_drop_feed (feed_notMem_dropLast_followers hnext) hprefix⟩

/-! ### Blocks -/

/-- Lexemes with every list in its place after which another may follow. -/
structure Stacks (lexemes : List Lexeme) : Prop where
  laid : Laid lexemes
  opens : Opens lexemes

namespace Stacks

variable {as bs : List Lexeme}

theorem nil : Stacks [] := ⟨isInline_nil.laid, .start⟩

theorem feed : Stacks [feed] := ⟨(isInline_char '\n').laid, .newline []⟩

theorem append (ha : Stacks as) (hb : Stacks bs) : Stacks (as ++ bs) :=
  ⟨ha.laid.append ha.opens hb.laid, ha.opens.append hb.opens⟩

theorem tighten (h : Stacks as) : Stacks (tighten as) := by
  rcases tighten_cases as with hsame | ⟨before, after, rfl, hafter⟩
  · rwa [hsame]
  · rw [hafter]
    exact ⟨h.laid.drop_feed, h.opens.drop_feed⟩

theorem item : Stacks itemLexemes :=
  ⟨laid_word (isInline_char ' ') ⟨[.char ' '], by decide, List.prefix_rfl⟩, .item .start⟩

theorem environmentLine {word name : String} (hword : word = "begin" ∨ word = "end")
    (hname : name = "itemize" ∨ name = "enumerate") :
    Stacks (worded word (name.toList.map .char) ++ [Latex.feed]) := by
  have hinline : IsInline (braced (name.toList.map .char) ++ [Latex.feed]) :=
    (isInline_map_char name.toList).braced.append (isInline_char '\n')
  have hnext : braced (name.toList.map .char) ++ [Latex.feed] ∈ followers word.toList := by
    rcases hword with rfl | rfl <;> rcases hname with rfl | rfl <;> decide
  exact ⟨laid_word hinline ⟨_, hnext, List.prefix_rfl⟩, .newline _⟩

theorem environment (h : Stacks as) {name : String} (hname : name = "itemize" ∨ name = "enumerate") :
    Stacks (environmentLexemes name as) := by
  have hall := (environmentLine (Or.inl rfl) hname).append
    (h.append (environmentLine (Or.inr rfl) hname))
  simpa only [environmentLexemes, List.append_assoc, List.singleton_append] using hall

/-- A paragraph has no command of a list and ends its last line. -/
theorem paragraph (h : IsInline as) : Stacks (as ++ [Latex.feed, Latex.feed]) := by
  have hopens := Opens.newline (as ++ [Latex.feed])
  rw [List.append_assoc] at hopens
  exact ⟨(h.append ((isInline_char '\n').append (isInline_char '\n'))).laid, hopens⟩

end Stacks

/-! ### Trees -/

theorem exists_text_of_admits {node : Node} (h : ChildKind.text.admits (Draft.ofNode node) = true) :
    ∃ content marks, node = .text content marks := by
  cases node with
  | text content marks => exact ⟨content, marks, rfl⟩
  | branch container children => cases container <;> cases h

theorem exists_branch_of_admits {kind : ChildKind} (hkind : kind ≠ .text) {node : Node}
    (h : kind.admits (Draft.ofNode node) = true) :
    ∃ container children, node = .branch container children := by
  cases node with
  | text content marks =>
    cases kind with
    | text => exact absurd rfl hkind
    | block => cases h
    | item => cases h
  | branch container children => exact ⟨container, children, rfl⟩

theorem isInline_allLexemes (underline : Bool) {nodes : List Node}
    (h : ∀ node ∈ nodes, ChildKind.text.admits (Draft.ofNode node) = true) :
    IsInline (allLexemes underline nodes) := by
  intro name hname hmem
  rw [allLexemes_eq_flatMap] at hmem
  obtain ⟨node, hnode, hword⟩ := List.mem_flatMap.1 hmem
  obtain ⟨content, marks, rfl⟩ := exists_text_of_admits (h node hnode)
  exact isInline_leafLexemes underline content marks name hname hword

theorem stacks_allLexemes {underline : Bool} {nodes : List Node}
    (h : ∀ node ∈ nodes, Stacks (nodeLexemes underline node)) :
    Stacks (allLexemes underline nodes) := by
  induction nodes with
  | nil => exact .nil
  | cons node rest ih =>
    rw [List.forall_mem_cons] at h
    exact h.1.append (ih h.2)

theorem Stacks.enclosed {body : List Lexeme} (h : Stacks body) {container : Container Int}
    (hcontainer : container ≠ .paragraph) (childless : Bool) :
    Stacks (enclosedLexemes container childless body) := by
  cases container with
  | doc => exact h
  | paragraph => exact absurd rfl hcontainer
  | bulletList => exact h.environment (Or.inl rfl)
  | orderedList start => exact h.environment (Or.inr rfl)
  | listItem => exact Stacks.item.append h.tighten

/-- Every block and item of a document that keeps to the rules stacks. -/
theorem stacks_branch (underline : Bool) (node : Node) :
    ∀ container children, node = .branch container children →
      (Draft.ofNode node).violations = [] → Stacks (nodeLexemes underline node) := by
  induction node using Node.tree_induction with
  | text content marks => nofun
  | branch container children ih =>
    rintro _ _ ⟨⟩ hvalid
    rw [Draft.violations_branch_eq_nil_iff] at hvalid
    rw [nodeLexemes]
    by_cases hparagraph : container = .paragraph
    · subst hparagraph
      cases children with
      | nil => exact .feed
      | cons child rest =>
        exact .paragraph (isInline_allLexemes underline fun node hnode => (hvalid node hnode).1)
    · have hkind : container.childKind ≠ .text := by
        cases container <;> simp_all [Container.childKind]
      refine (stacks_allLexemes fun child hchild => ?_).enclosed hparagraph _
      obtain ⟨hadmits, hinside⟩ := hvalid child hchild
      obtain ⟨inner, grandchildren, heq⟩ := exists_branch_of_admits hkind hadmits
      exact ih child hchild inner grandchildren heq hinside

theorem laid_nodeLexemes (underline : Bool) {node : Node}
    (hvalid : (Draft.ofNode node).violations = []) : Laid (nodeLexemes underline node) := by
  cases node with
  | text content marks => exact (isInline_leafLexemes underline content marks).laid
  | branch container children => exact (stacks_branch underline _ container children rfl hvalid).laid

/-! ### Lines -/

/-- Is this a whole line of the lexemes? -/
def IsLine (lexemes line : List Lexeme) : Prop :=
  feed ∉ line ∧ ∃ before after, lexemes = before ++ (line ++ after) ∧
    (before = [] ∨ ∃ rest, before = rest ++ [feed]) ∧ (after = [] ∨ ∃ rest, after = feed :: rest)

theorem eq_of_append_feed {as bs tail more : List Lexeme} (ha : feed ∉ as) (hb : feed ∉ bs)
    (h : as ++ feed :: tail = bs ++ feed :: more) : as = bs := by
  induction as generalizing bs with
  | nil =>
    cases bs with
    | nil => rfl
    | cons b bs =>
      cases h
      exact absurd (List.mem_cons_self ..) hb
  | cons a as ih =>
    cases bs with
    | nil =>
      cases h
      exact absurd (List.mem_cons_self ..) ha
    | cons b bs =>
      obtain ⟨rfl, hrest⟩ := List.cons.inj h
      rw [ih (fun hmem => ha (List.mem_cons_of_mem _ hmem))
        (fun hmem => hb (List.mem_cons_of_mem _ hmem)) hrest]

theorem feed_notMem_braced {environment : List Char} (h : environment ∈ environments) :
    feed ∉ braced (environment.map .char) := by
  revert environment
  decide

/-- A line on which an environment begins or ends has nothing else on it but marks of items in front
of that. -/
theorem Laid.line_eq {lexemes line : List Lexeme} (h : Laid lexemes) (hline : IsLine lexemes line)
    {name : List Char} (hname : name ∈ environmentWords) (hmem : .word name ∈ line) :
    ∃ k, ∃ environment ∈ environments,
      line = (List.replicate k itemLexemes).flatten ++ .word name :: braced (environment.map .char) := by
  obtain ⟨hfeed, before, after, rfl, hbefore, hafter⟩ := hline
  obtain ⟨start, rest, rfl⟩ := List.append_of_mem hmem
  have hsplit : before ++ ((start ++ .word name :: rest) ++ after) =
      (before ++ start) ++ .word name :: (rest ++ after) := by simp
  have hitem : ∀ word ∈ environmentWords, word ≠ "item".toList := by decide
  obtain ⟨hopens, next, hnext, hprefix⟩ := h _ name _ hsplit (List.mem_cons_of_mem _ hname)
  rw [followers, if_neg (hitem name hname)] at hnext
  obtain ⟨environment, henvironment, rfl⟩ := List.mem_map.1 hnext
  have hstart : Opens start := by
    rcases hbefore with rfl | ⟨line, rfl⟩
    · exact hopens
    · rw [List.append_assoc] at hopens
      exact hopens.of_append_feed
  obtain ⟨k, rfl⟩ := hstart.eq_items fun hmem => hfeed (List.mem_append_left _ hmem)
  have hrest : feed ∉ rest := fun hmem =>
    hfeed (List.mem_append_right _ (List.mem_cons_of_mem _ hmem))
  have heq : rest = braced (environment.map .char) := by
    obtain ⟨tail, htail⟩ := hprefix
    rw [List.append_assoc, List.singleton_append] at htail
    rcases hafter with rfl | ⟨more, rfl⟩
    · have hmem : feed ∈ rest ++ [] := htail ▸ List.mem_append_right _ (List.mem_cons_self ..)
      rw [List.append_nil] at hmem
      exact absurd hmem hrest
    · exact (eq_of_append_feed (feed_notMem_braced henvironment) hrest htail).symm
  exact ⟨k, environment, henvironment, by rw [heq]⟩

end Latex

/-! ### The whole -/

/-- In what the writer makes of a document that keeps to the rules, with escaping, every command of a
list stands at the start, directly after a line feed or directly after the mark of an item that
stands there, and those that open or close an environment end their line. So nothing but such marks
shares a line with them, and no text of a paragraph does. -/
theorem generate_lays_out (o : Options) (value : Json) (context : Context) (node : Node)
    (hstyle : latexStyle o = ⟨true, true⟩) (hcontext : Context.ofValue value = .ok context)
    (hvalid : (Draft.ofNode node).violations = []) (hmarks : ∀ mark ∈ node.marks, mark.IsLatex) :
    ∃ out lexemes, Writer.generate ⟨.latex, o⟩ value node = .ok out ∧
      Latex.lex out.toList = some lexemes ∧
      Latex.Laid lexemes ∧
      ∀ line, Latex.IsLine lexemes line → ∀ name ∈ Latex.environmentWords, .word name ∈ line →
        ∃ k, ∃ environment ∈ Latex.environments,
          line = (List.replicate k Latex.itemLexemes).flatten ++
            .word name :: Latex.braced (environment.map .char) := by
  obtain ⟨out, hout, hlex⟩ := Latex.generate_lexes hstyle hcontext hmarks
  have hlaid := Latex.laid_nodeLexemes context.linkUnderline hvalid
  exact ⟨out, _, hout, hlex, hlaid, fun line hline name hname hmem =>
    hlaid.line_eq hline hname hmem⟩

/-- An empty item, an item that opens with a list of an empty item, and texts with line feeds and
with something that looks like a command. -/
def crowdedList : Node :=
  .branch .bulletList [.branch .listItem [],
    .branch .listItem [.branch (.orderedList 3) [.branch .listItem [], .branch .listItem
      [.branch .paragraph [], .branch .paragraph [.text "\n\n\\end\x7bitemize\x7d" [.bold]]]]],
    .branch .listItem [.branch .paragraph [.text "a\n" [.link (.str "\\begin") .null .null]],
      .branch .bulletList []]]

theorem generate_lays_out_crowded :
    ∃ out lexemes, Writer.generate ⟨.latex, .default .latexWriter⟩ .null crowdedList = .ok out ∧
      Latex.lex out.toList = some lexemes ∧ Latex.Laid lexemes := by
  obtain ⟨out, lexemes, hout, hlex, hlaid, -⟩ :=
    generate_lays_out (.default .latexWriter) .null {} crowdedList rfl rfl rfl (by
      intro mark hmark
      simp only [crowdedList, Node.marks, Node.leaves, Node.allLeaves, List.append_nil,
        List.nil_append, List.cons_append, List.flatMap_cons, List.flatMap_nil, List.mem_cons,
        List.not_mem_nil, or_false] at hmark
      rcases hmark with rfl | rfl
      · trivial
      · exact fun _ => ⟨_, rfl⟩)
  exact ⟨out, lexemes, hout, hlex, hlaid⟩

end Vitae
