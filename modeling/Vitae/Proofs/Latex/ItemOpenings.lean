import Mathlib.Data.List.Forall2
import Vitae.Proofs.Latex.BlankLines

/-!
# How items open

The mark of an item should not be followed by a blank line. Where it is nevertheless is read off the
document: for an item that is in no other, closing up leaves a blank line exactly if its paragraphs
end too many lines before anything is shown; an item inside others may be rid of the line by one of
those.
-/

namespace Vitae

namespace Node

mutual

/-- The list items of a tree, an item before those in it: whether it is inside another one, and its
children. -/
def listItems (inside : Bool) : Node → List (Bool × List Node)
  | .text .. => []
  | .branch .listItem children => (inside, children) :: allListItems true children
  | .branch _ children => allListItems inside children

def allListItems (inside : Bool) : List Node → List (Bool × List Node)
  | [] => []
  | child :: rest => listItems inside child ++ allListItems inside rest

end

end Node

namespace Latex

/-! ### What follows the marks of items -/

/-- What comes behind each mark of an item. -/
def afterItems : List Lexeme → List (List Lexeme)
  | [] => []
  | l :: ls => if l = .word "item".toList then ls :: afterItems ls else afterItems ls

theorem afterItems_append (as bs : List Lexeme) :
    afterItems (as ++ bs) = (afterItems as).map (· ++ bs) ++ afterItems bs := by
  induction as with
  | nil => rfl
  | cons l as ih =>
    rw [List.cons_append, afterItems, afterItems, ih]
    split
    · rfl
    · rfl

theorem afterItems_eq_nil {lexemes : List Lexeme} (h : .word "item".toList ∉ lexemes) :
    afterItems lexemes = [] := by
  induction lexemes with
  | nil => rfl
  | cons l ls ih =>
    rw [List.mem_cons, not_or] at h
    rw [afterItems, if_neg (Ne.symm h.1), ih h.2]

/-- Lexemes that close an environment. -/
def endLexemes (name : String) : List Lexeme := worded "end" (name.toList.map .char) ++ [feed]

theorem afterItems_environmentLexemes (name : String) (body : List Lexeme) :
    afterItems (environmentLexemes name body) = (afterItems body).map (· ++ endLexemes name) := by
  have hbegin : .word "item".toList ∉ worded "begin" (name.toList.map .char) ++ [feed] := by
    simp [worded, braced, feed]
  have hend : .word "item".toList ∉ endLexemes name := by
    simp [endLexemes, worded, braced, feed]
  have hsplit : environmentLexemes name body =
      (worded "begin" (name.toList.map .char) ++ [feed]) ++ (body ++ endLexemes name) := by
    simp [environmentLexemes, endLexemes]
  rw [hsplit, afterItems_append, afterItems_eq_nil hbegin, afterItems_append,
    afterItems_eq_nil hend, List.map_nil, List.nil_append, List.append_nil]

/-- Does what comes behind the mark of an item suit the item? There is a blank and then, in these
cases only, a blank line; for an item that is in no other, always in these cases. -/
def Answers (item : Bool × List Node) (after : List Lexeme) : Prop :=
  ∃ text, after = .char ' ' :: text ∧
    (startsBlank text = true → Node.opensBlank item.2 = true) ∧
    (item.1 = false → Node.opensBlank item.2 = true → startsBlank text = true)

theorem Answers.append {item : Bool × List Node} {after bs : List Lexeme} (h : Answers item after)
    (hbs : ∀ text, after = .char ' ' :: text → startsBlank (text ++ bs) = startsBlank text) :
    Answers item (after ++ bs) := by
  obtain ⟨text, rfl, hsound, hcomplete⟩ := h
  have heq := hbs text rfl
  exact ⟨text ++ bs, rfl, by rwa [heq], by rwa [heq]⟩

/-- Does it make no difference for the items in the first lexemes whether the others follow? -/
def Settled (as bs : List Lexeme) : Prop :=
  ∀ text, .char ' ' :: text ∈ afterItems as → startsBlank (text ++ bs) = startsBlank text

theorem forall₂_imp_of_mem {α β : Type} {R S : α → β → Prop} {as : List α} {bs : List β}
    (h : List.Forall₂ R as bs) (hRS : ∀ a, ∀ b ∈ bs, R a b → S a b) : List.Forall₂ S as bs := by
  induction h with
  | nil => exact .nil
  | cons hab _ ih =>
    exact .cons (hRS _ _ (List.mem_cons_self ..) hab) (ih fun a b hb =>
      hRS a b (List.mem_cons_of_mem _ hb))

theorem forall₂_answers_append {items more : List (Bool × List Node)} {as bs : List Lexeme}
    (ha : List.Forall₂ Answers items (afterItems as)) (hsettled : Settled as bs)
    (hb : List.Forall₂ Answers more (afterItems bs)) :
    List.Forall₂ Answers (items ++ more) (afterItems (as ++ bs)) := by
  rw [afterItems_append]
  refine List.rel_append ?_ hb
  rw [List.forall₂_map_right_iff]
  exact forall₂_imp_of_mem ha fun item after hafter h => h.append fun text htext =>
    hsettled text (htext ▸ hafter)

theorem settled_of_head {as bs : List Lexeme} (h : ∀ c, bs.head? ≠ some (.char c)) :
    Settled as bs := fun _ _ => startsBlank_append h

/-- Inside an environment everything is settled by the command that closes it. -/
theorem settled_environmentLexemes (name : String) (body bs : List Lexeme) :
    Settled (environmentLexemes name body) bs := by
  intro text htext
  rw [afterItems_environmentLexemes] at htext
  obtain ⟨after, -, hafter⟩ := List.mem_map.1 htext
  cases after with
  | nil => cases hafter
  | cons l after =>
    rw [List.cons_append] at hafter
    obtain ⟨-, rfl⟩ := List.cons.inj hafter
    have hend : startsBlank (after ++ endLexemes name) = startsBlank after :=
      startsBlank_append fun _ => nofun
    have hmore : startsBlank (after ++ (endLexemes name ++ bs)) = startsBlank after :=
      startsBlank_append fun _ => nofun
    rw [List.append_assoc, hmore, hend]

/-- What goes behind the mark of an item when a line feed next to another goes. -/
def Drops (loose tight : List Lexeme) : Prop :=
  tight = loose ∨
    ∃ before after, loose = before ++ feed :: feed :: after ∧ tight = before ++ feed :: after

theorem forall₂_drops_tighten (ls : List Lexeme) :
    List.Forall₂ Drops (afterItems ls) (afterItems (tighten ls)) := by
  rcases tighten_cases ls with hsame | ⟨before, after, rfl, htight⟩
  · rw [hsame]
    exact List.forall₂_same.2 fun _ _ => Or.inl rfl
  · rw [htight, afterItems_append, afterItems_append]
    have hafter : afterItems (feed :: feed :: after) = afterItems (feed :: after) := rfl
    rw [hafter]
    refine List.rel_append ?_ (List.forall₂_same.2 fun _ _ => Or.inl rfl)
    rw [List.forall₂_map_left_iff, List.forall₂_map_right_iff]
    exact List.forall₂_same.2 fun start _ => Or.inr ⟨start, after, rfl, rfl⟩

theorem Answers.drops {item : Bool × List Node} (hitem : item.1 = true)
    {loose tight : List Lexeme} (h : Answers item loose) (hdrops : Drops loose tight) :
    Answers item tight := by
  rcases hdrops with rfl | ⟨before, after, rfl, rfl⟩
  · exact h
  · obtain ⟨text, htext, hsound, -⟩ := h
    cases before with
    | nil => cases htext
    | cons l before =>
      cases htext
      exact ⟨before ++ feed :: after, rfl, fun hblank => hsound (startsBlank_drop_feed hblank),
        fun houtside => absurd (hitem.symm.trans houtside) nofun⟩

theorem forall₂_answers_tighten {items : List (Bool × List Node)}
    (hitems : ∀ item ∈ items, item.1 = true) {ls : List Lexeme}
    (h : List.Forall₂ Answers items (afterItems ls)) :
    List.Forall₂ Answers items (afterItems (tighten ls)) := by
  have hdrops := forall₂_drops_tighten ls
  generalize afterItems ls = loose at h hdrops
  generalize afterItems (tighten ls) = tight at hdrops
  induction h generalizing tight with
  | nil =>
    cases hdrops
    exact .nil
  | cons hitem _ ih =>
    rw [List.forall_mem_cons] at hitems
    cases hdrops with
    | cons hdrop hrest => exact .cons (hitem.drops hitems.1 hdrop) (ih hitems.2 _ hrest)

/-! ### Trees -/

theorem allListItems_eq_flatMap (inside : Bool) (nodes : List Node) :
    Node.allListItems inside nodes = nodes.flatMap (Node.listItems inside) := by
  induction nodes with
  | nil => rfl
  | cons node rest ih => rw [Node.allListItems, ih, List.flatMap_cons]

theorem forall_mem_allListItems {inside : Bool} {nodes : List Node} {p : Bool × List Node → Prop}
    (h : ∀ node ∈ nodes, ∀ item ∈ node.listItems inside, p item) :
    ∀ item ∈ Node.allListItems inside nodes, p item := by
  intro item hitem
  rw [allListItems_eq_flatMap] at hitem
  obtain ⟨node, hnode, hmem⟩ := List.mem_flatMap.1 hitem
  exact h node hnode item hmem

theorem fst_of_mem_listItems (node : Node) : ∀ item ∈ node.listItems true, item.1 = true := by
  induction node using Node.tree_induction with
  | text content marks => simp [Node.listItems]
  | branch container children ih =>
    have hchildren := forall_mem_allListItems ih
    cases container with
    | listItem => exact List.forall_mem_cons.2 ⟨rfl, hchildren⟩
    | _ => exact hchildren

theorem isRow_of_admits (h : ∀ node ∈ nodes, ChildKind.text.admits (Draft.ofNode node) = true)
    (hfeeds : ∀ node ∈ nodes, '\n' ∉ node.plainText) : IsRow nodes := by
  intro node hnode
  obtain ⟨content, marks, rfl⟩ := exists_text_of_admits (h node hnode)
  have hcontent := hfeeds _ hnode
  simp only [Node.plainText, Node.leaves, List.flatMap_cons, List.flatMap_nil,
    List.append_nil] at hcontent
  exact ⟨content, marks, rfl, hcontent⟩

theorem feeds_of_branch {container : Container Int} {children : List Node}
    (h : '\n' ∉ (Node.branch container children).plainText) :
    ∀ child ∈ children, '\n' ∉ child.plainText := by
  rw [Node.plainText_branch, List.mem_flatMap] at h
  exact fun child hchild hmem => h ⟨child, hchild, hmem⟩

theorem isBlock_of_wellPlaced {node : Node} (h : (Draft.ofNode node).WellPlaced .block)
    (hfeeds : '\n' ∉ node.plainText) : IsBlock node := by
  obtain ⟨hadmits, hvalid⟩ := h
  cases node with
  | text content marks => cases hadmits
  | branch container children =>
    rw [Draft.violations_branch_eq_nil_iff] at hvalid
    cases container with
    | doc => cases hadmits
    | paragraph =>
      exact .paragraph (isRow_of_admits (fun node hnode => (hvalid node hnode).1)
        (feeds_of_branch hfeeds))
    | bulletList => exact .bulletList children
    | orderedList start => exact .orderedList start children
    | listItem => cases hadmits

theorem afterItems_paragraph (underline : Bool) {children : List Node} (h : IsRow children) :
    afterItems (nodeLexemes underline (.branch .paragraph children)) = [] := by
  have hinline : IsInline (allLexemes underline children) := by
    refine isInline_allLexemes underline fun node hnode => ?_
    obtain ⟨content, marks, rfl, -⟩ := h node hnode
    rfl
  by_cases hchildren : children = []
  · subst hchildren
    rfl
  · rw [nodeLexemes_paragraph underline hchildren, afterItems_append,
      afterItems_eq_nil (hinline _ (List.mem_cons_self ..))]
    rfl

theorem settled_block (underline : Bool) {node : Node} (h : IsBlock node) (bs : List Lexeme) :
    Settled (nodeLexemes underline node) bs := by
  cases h with
  | paragraph hrow =>
    intro text htext
    rw [afterItems_paragraph underline hrow] at htext
    exact absurd htext List.not_mem_nil
  | bulletList children => exact settled_environmentLexemes "itemize" _ bs
  | orderedList start children => exact settled_environmentLexemes "enumerate" _ bs

theorem head?_item {node : Node} (h : ChildKind.item.admits (Draft.ofNode node) = true) (c : Char) :
    (nodeLexemes underline node).head? ≠ some (.char c) := by
  cases node with
  | text content marks => cases h
  | branch container children =>
    cases container with
    | listItem => nofun
    | _ => cases h

theorem head?_items (h : ∀ node ∈ nodes, ChildKind.item.admits (Draft.ofNode node) = true)
    (c : Char) : (allLexemes underline nodes).head? ≠ some (.char c) := by
  induction nodes with
  | nil => nofun
  | cons node rest ih =>
    rw [List.forall_mem_cons] at h
    rw [allLexemes, List.head?_append]
    intro hhead
    rcases Option.or_eq_some_iff.1 hhead with hfirst | ⟨-, hrest⟩
    · exact head?_item h.1 c hfirst
    · exact ih h.2 hrest

theorem forall₂_answers_blocks {inside : Bool} (hblocks : ∀ node ∈ nodes, IsBlock node)
    (h : ∀ node ∈ nodes,
      List.Forall₂ Answers (node.listItems inside) (afterItems (nodeLexemes underline node))) :
    List.Forall₂ Answers (Node.allListItems inside nodes)
      (afterItems (allLexemes underline nodes)) := by
  induction nodes with
  | nil => exact .nil
  | cons node rest ih =>
    rw [List.forall_mem_cons] at h hblocks
    exact forall₂_answers_append h.1 (settled_block underline hblocks.1 _) (ih hblocks.2 h.2)

theorem forall₂_answers_items {inside : Bool}
    (hitems : ∀ node ∈ nodes, ChildKind.item.admits (Draft.ofNode node) = true)
    (h : ∀ node ∈ nodes,
      List.Forall₂ Answers (node.listItems inside) (afterItems (nodeLexemes underline node))) :
    List.Forall₂ Answers (Node.allListItems inside nodes)
      (afterItems (allLexemes underline nodes)) := by
  induction nodes with
  | nil => exact .nil
  | cons node rest ih =>
    rw [List.forall_mem_cons] at h hitems
    exact forall₂_answers_append h.1 (settled_of_head (head?_items hitems.2)) (ih hitems.2 h.2)

theorem forall₂_answers_environment {items : List (Bool × List Node)} {body : List Lexeme}
    (h : List.Forall₂ Answers items (afterItems body)) (name : String) :
    List.Forall₂ Answers items (afterItems (environmentLexemes name body)) := by
  rw [afterItems_environmentLexemes, List.forall₂_map_right_iff]
  exact h.imp fun item after hitem => hitem.append fun _ _ => startsBlank_append fun _ => nofun

/-- Item by item, in the order of the document, what comes behind the marks suits the items. -/
theorem forall₂_answers (underline : Bool) (node : Node) : ∀ inside,
    (Draft.ofNode node).violations = [] → '\n' ∉ node.plainText →
    List.Forall₂ Answers (node.listItems inside) (afterItems (nodeLexemes underline node)) := by
  induction node using Node.tree_induction with
  | text content marks =>
    intro inside _ _
    have hinline := isInline_leafLexemes underline content marks
    rw [nodeLexemes, afterItems_eq_nil (hinline _ (List.mem_cons_self ..))]
    exact .nil
  | branch container children ih =>
    intro inside hvalid hfeeds
    rw [Draft.violations_branch_eq_nil_iff] at hvalid
    have hchildren := feeds_of_branch hfeeds
    have hinside (inside : Bool) : ∀ child ∈ children, List.Forall₂ Answers
        (child.listItems inside) (afterItems (nodeLexemes underline child)) := fun child hchild =>
      ih child hchild inside (hvalid child hchild).2 (hchildren child hchild)
    cases container with
    | doc =>
      have hblocks : ∀ child ∈ children, IsBlock child := fun child hchild =>
        isBlock_of_wellPlaced (hvalid child hchild) (hchildren child hchild)
      exact forall₂_answers_blocks hblocks (hinside inside)
    | paragraph =>
      have hrow := isRow_of_admits (fun child hchild => (hvalid child hchild).1) hchildren
      have hitems : Node.allListItems inside children = [] := by
        rw [allListItems_eq_flatMap, List.flatMap_eq_nil_iff]
        intro child hchild
        obtain ⟨content, marks, rfl, -⟩ := hrow child hchild
        rfl
      have hlist : Node.listItems inside (.branch .paragraph children) = [] := hitems
      rw [afterItems_paragraph underline hrow, hlist]
      exact .nil
    | bulletList =>
      have hall := forall₂_answers_items (fun child hchild => (hvalid child hchild).1) (hinside inside)
      exact forall₂_answers_environment hall "itemize"
    | orderedList start =>
      have hall := forall₂_answers_items (fun child hchild => (hvalid child hchild).1) (hinside inside)
      exact forall₂_answers_environment hall "enumerate"
    | listItem =>
      have hblocks : ∀ child ∈ children, IsBlock child := fun child hchild =>
        isBlock_of_wellPlaced (hvalid child hchild) (hchildren child hchild)
      have hstart : startsBlank (tighten (allLexemes underline children)) =
          Node.opensBlank children := startsBlank_tighten_blocks hblocks
      have hflags := forall_mem_allListItems fun child (_ : child ∈ children) =>
        fst_of_mem_listItems child
      have hrest := forall₂_answers_tighten hflags (forall₂_answers_blocks hblocks (hinside true))
      refine .cons ⟨tighten (allLexemes underline children), rfl, ?_, fun _ => ?_⟩ hrest
      · exact fun h => hstart ▸ h
      · exact fun h => hstart.symm ▸ h

theorem exists_text_of_answers {items : List (Bool × List Node)} {ls : List Lexeme}
    (h : List.Forall₂ Answers items (afterItems ls))
    (hitems : ∀ item ∈ items, Node.opensBlank item.2 = false) :
    ∀ after ∈ afterItems ls, ∃ text, after = .char ' ' :: text ∧ startsBlank text = false := by
  generalize afterItems ls = found at h
  induction h with
  | nil => simp
  | cons hanswers _ ih =>
    rw [List.forall_mem_cons] at hitems ⊢
    obtain ⟨text, htext, hsound, -⟩ := hanswers
    have hshown : startsBlank text = false :=
      Bool.eq_false_iff.2 fun hblank => Bool.eq_false_iff.1 hitems.1 (hsound hblank)
    exact ⟨⟨text, htext, hshown⟩, ih hitems.2⟩

end Latex

/-! ### The whole -/

/-- Where blank lines follow the marks of items in what the writer makes of a document that keeps to
the rules, with escaping, if no text has a line feed in it. The marks are those of the document's
items, in the same order. Behind a mark there is a blank line only if the item's children are such
that closing up leaves one, and for an item that is in no other, whenever they are. So without such
items there is none. -/
theorem generate_opens_items (o : Options) (value : Json) (context : Context) (node : Node)
    (hstyle : latexStyle o = ⟨true, true⟩) (hcontext : Context.ofValue value = .ok context)
    (hvalid : (Draft.ofNode node).violations = []) (hfeeds : '\n' ∉ node.plainText)
    (hmarks : ∀ mark ∈ node.marks, mark.IsLatex) :
    ∃ out lexemes, Writer.generate ⟨.latex, o⟩ value node = .ok out ∧
      Latex.lex out.toList = some lexemes ∧
      List.Forall₂ Latex.Answers (node.listItems false) (Latex.afterItems lexemes) ∧
      ((∀ item ∈ node.listItems false, Node.opensBlank item.2 = false) →
        ∀ after ∈ Latex.afterItems lexemes, ∃ text, after = .char ' ' :: text ∧
          Latex.startsBlank text = false) := by
  obtain ⟨out, hout, hlex⟩ := Latex.generate_lexes hstyle hcontext hmarks
  have hanswers := Latex.forall₂_answers context.linkUnderline node false hvalid hfeeds
  exact ⟨out, _, hout, hlex, hanswers, Latex.exists_text_of_answers hanswers⟩

/-- An item of three paragraphs without children. -/
def emptyItem : Node :=
  .branch .listItem [.branch .paragraph [], .branch .paragraph [], .branch .paragraph []]

/-- An item with a blank line behind its mark, and in it another one and one that shows a text. -/
def nestedItem : Node :=
  .branch .listItem [.branch .paragraph [.text "" []], .branch .paragraph [.text "\t" []],
    .branch .bulletList [emptyItem, .branch .listItem [.branch .paragraph [.text "a" [.italic]]]]]

theorem generate_opens_items_nested :
    ∃ out lexemes, Writer.generate ⟨.latex, .default .latexWriter⟩ .null nestedItem = .ok out ∧
      Latex.lex out.toList = some lexemes ∧
      List.Forall₂ Latex.Answers (nestedItem.listItems false) (Latex.afterItems lexemes) := by
  obtain ⟨out, lexemes, hout, hlex, hanswers, -⟩ :=
    generate_opens_items (.default .latexWriter) .null {} nestedItem rfl rfl rfl (by decide) (by
      simp [nestedItem, emptyItem, Node.marks, Node.leaves, Node.allLeaves, Mark.IsLatex])
  exact ⟨out, lexemes, hout, hlex, hanswers⟩

/-- An outer item may rid an inner one of its blank line. -/
example : Writer.generate ⟨.latex, .default .latexWriter⟩ .null
    (.branch .listItem [.branch .bulletList [.branch .listItem
      [.branch .paragraph [], .branch .paragraph [], .branch .paragraph []]]]) =
        .ok "\\item \\begin\x7bitemize\x7d\n\\item \n\\end\x7bitemize\x7d\n" := rfl

/-- An item that keeps to the rules, has no line feed in a text and has a blank line behind its
mark: of the three line feeds that its paragraphs end with only one goes. -/
theorem startsBlank_emptyItem :
    (Draft.ofNode emptyItem).violations = [] ∧ '\n' ∉ emptyItem.plainText ∧
      ∃ out lexemes text, Writer.generate ⟨.latex, .default .latexWriter⟩ .null emptyItem = .ok out ∧
        Latex.lex out.toList = some lexemes ∧ .char ' ' :: text ∈ Latex.afterItems lexemes ∧
        Latex.startsBlank text = true := by
  refine ⟨rfl, by decide, "\\item \n\n", [.word "item".toList, .char ' ', .char '\n', .char '\n'],
    [.char '\n', .char '\n'], rfl, by decide, by decide, by decide⟩

end Vitae
