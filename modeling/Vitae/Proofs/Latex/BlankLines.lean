import Vitae.Proofs.Latex.Layout

/-!
# Blank lines at the start of items

When the text of an item begins with a blank line. One line feed is given up, so it does if the
first paragraph writes nothing but its end, the second shows nothing either and more line feeds come
than one can be given up.
-/

namespace Vitae

namespace Latex

/-! ### Blank lines -/

def Lexeme.isSpacing : Lexeme → Bool
  | .char c => c == ' ' || c == '\t'
  | _ => false

/-- Does nothing but spaces and tabs come before the next line feed, and is there one? -/
def endsLine : List Lexeme → Bool
  | [] => false
  | l :: ls => decide (l = feed) || (l.isSpacing && endsLine ls)

/-- Is there a line feed and then, but for spaces and tabs, another one? -/
def startsBlank : List Lexeme → Bool
  | [] => false
  | l :: ls => decide (l = feed) && endsLine ls

section

variable {as bs ls : List Lexeme} {l : Lexeme}

theorem endsLine_of_head (h : ∀ c, ls.head? ≠ some (.char c)) : endsLine ls = false := by
  cases ls with
  | nil => rfl
  | cons l ls =>
    cases l with
    | char c => exact absurd rfl (h c)
    | _ => rfl

/-- Whether a blank line comes first is settled where something else than a character comes. -/
theorem endsLine_append (h : ∀ c, bs.head? ≠ some (.char c)) : endsLine (as ++ bs) = endsLine as := by
  induction as with
  | nil => exact endsLine_of_head h
  | cons l as ih => rw [List.cons_append, endsLine, endsLine, ih]

theorem startsBlank_append (h : ∀ c, bs.head? ≠ some (.char c)) :
    startsBlank (as ++ bs) = startsBlank as := by
  cases as with
  | nil =>
    cases bs with
    | nil => rfl
    | cons l bs =>
      cases l with
      | char c => exact absurd rfl (h c)
      | _ => rfl
  | cons l as => rw [List.cons_append, startsBlank, startsBlank, endsLine_append h]

theorem endsLine_drop_feed : endsLine (as ++ feed :: feed :: bs) = endsLine (as ++ feed :: bs) := by
  induction as with
  | nil => rfl
  | cons l as ih => rw [List.cons_append, List.cons_append, endsLine, endsLine, ih]

/-- Where a line feed next to another goes, no blank line comes to stand first. -/
theorem startsBlank_drop_feed (h : startsBlank (as ++ feed :: bs) = true) :
    startsBlank (as ++ feed :: feed :: bs) = true := by
  cases as with
  | nil => rfl
  | cons l as =>
    rw [List.cons_append, startsBlank] at h ⊢
    rwa [endsLine_drop_feed]

theorem endsLine_tighten (ls : List Lexeme) : endsLine (tighten ls) = endsLine ls := by
  rcases tighten_cases ls with hsame | ⟨before, after, hbefore, hafter⟩
  · rw [hsame]
  · rw [hbefore] at hafter ⊢
    rw [hafter, endsLine_drop_feed]

theorem startsBlank_tighten_feeds : startsBlank (tighten (feed :: feed :: ls)) = endsLine ls := by
  rw [feed, tighten]
  rfl

theorem startsBlank_tighten_feed (h : ls.head? ≠ some feed) :
    startsBlank (tighten (feed :: ls)) = endsLine ls := by
  rw [tighten_cons fun hfeeds => h hfeeds.2, startsBlank, endsLine_tighten]
  rfl

theorem startsBlank_tighten_of_ne (h : l ≠ feed) : startsBlank (tighten (l :: ls)) = false := by
  rw [tighten_cons fun hfeeds => h hfeeds.1, startsBlank, decide_eq_false h, Bool.false_and]

end

end Latex

/-! ### Paragraphs that show nothing -/

namespace Node

/-- Is this a text without marks of spaces and tabs? -/
def isSpacing : Node → Bool
  | .text content marks => marks.isEmpty && Latex.isBlankLine content.toList
  | .branch .. => false

def isEmptyText : Node → Bool
  | .text content marks => marks.isEmpty && content.toList.isEmpty
  | .branch .. => false

/-- Is this a paragraph that shows nothing? -/
def isHollow : Node → Bool
  | .branch .paragraph children => children.all isSpacing
  | _ => false

/-- Is this a paragraph of which nothing is written but its end? -/
def isBare : Node → Bool
  | .branch .paragraph children => children.all isEmptyText
  | _ => false

/-- Does an item with these children open with a blank line? One line feed goes, which leaves a line
feed and a blank line unless both paragraphs are without children and nothing hollow follows. -/
def opensBlank : List Node → Bool
  | first :: second :: rest =>
    first.isBare && second.isHollow &&
      (!first.children.isEmpty || !second.children.isEmpty || rest.head?.any isHollow)
  | _ => false

end Node

namespace Latex

/-! ### What paragraphs leave on a line -/

theorem endsLine_escapedLexemes {c : Char} (hc : c ≠ '\n') (ls : List Lexeme) :
    endsLine (escapedLexemes c ++ ls) = ((c == ' ' || c == '\t') && endsLine ls) := by
  unfold escapedLexemes
  split
  · rfl
  · rfl
  · rfl
  · split
    · rename_i hspecial
      rcases hspecial with rfl | rfl | rfl | rfl | rfl | rfl | rfl <;> rfl
    · simp [endsLine, feed, hc, Lexeme.isSpacing]

theorem exists_escapedLexemes {c : Char} (hc : c ≠ '\n') :
    ∃ l ls, escapedLexemes c = l :: ls ∧ l ≠ feed := by
  unfold escapedLexemes
  split
  · exact ⟨_, _, rfl, by decide⟩
  · exact ⟨_, _, rfl, by decide⟩
  · exact ⟨_, _, rfl, by decide⟩
  · split
    · exact ⟨_, _, rfl, nofun⟩
    · exact ⟨_, _, rfl, fun hfeed => hc (Lexeme.char.inj hfeed)⟩

/-- A mark puts its command in front. -/
theorem exists_leafLexemes (underline : Bool) (content : String) {marks : List Mark}
    (h : marks ≠ []) : ∃ name ls, leafLexemes underline content marks = .word name :: ls := by
  rcases List.eq_nil_or_concat marks with rfl | ⟨init, mark, rfl⟩
  · exact absurd rfl h
  · unfold leafLexemes
    rw [List.concat_eq_append, List.foldl_append]
    cases mark <;> exact ⟨_, _, rfl⟩

theorem endsLine_leafLexemes (underline : Bool) {content : String} (marks : List Mark)
    (hcontent : '\n' ∉ content.toList) (ls : List Lexeme) :
    endsLine (leafLexemes underline content marks ++ ls) =
      ((Node.text content marks).isSpacing && endsLine ls) := by
  by_cases hmarks : marks = []
  · subst hmarks
    simp only [leafLexemes, List.foldl_nil, Node.isSpacing, List.isEmpty_nil, Bool.true_and]
    generalize content.toList = cs at hcontent
    induction cs with
    | nil => rfl
    | cons c cs ih =>
      rw [List.mem_cons, not_or] at hcontent
      have hline : isBlankLine (c :: cs) = ((c == ' ' || c == '\t') && isBlankLine cs) := rfl
      rw [List.flatMap_cons, List.append_assoc, endsLine_escapedLexemes (Ne.symm hcontent.1),
        ih hcontent.2, hline, Bool.and_assoc]
  · obtain ⟨name, rest, hrest⟩ := exists_leafLexemes underline content hmarks
    rw [hrest, Node.isSpacing, List.isEmpty_eq_false_iff.2 hmarks]
    rfl

/-- What a leaf writes, if anything, does not begin with a line feed. -/
theorem leafLexemes_cases (underline : Bool) {content : String} (marks : List Mark)
    (hcontent : '\n' ∉ content.toList) :
    ((Node.text content marks).isEmptyText = true ∧ leafLexemes underline content marks = []) ∨
      ((Node.text content marks).isEmptyText = false ∧
        ∃ l ls, leafLexemes underline content marks = l :: ls ∧ l ≠ feed) := by
  by_cases hmarks : marks = []
  · subst hmarks
    simp only [leafLexemes, List.foldl_nil, Node.isEmptyText, List.isEmpty_nil, Bool.true_and]
    generalize content.toList = cs at hcontent
    cases cs with
    | nil => exact Or.inl ⟨rfl, rfl⟩
    | cons c cs =>
      rw [List.mem_cons, not_or] at hcontent
      obtain ⟨l, ls, hls, hl⟩ := exists_escapedLexemes (Ne.symm hcontent.1)
      exact Or.inr ⟨rfl, l, ls ++ cs.flatMap escapedLexemes, by rw [List.flatMap_cons, hls]; rfl, hl⟩
  · obtain ⟨name, rest, hrest⟩ := exists_leafLexemes underline content hmarks
    refine Or.inr ⟨?_, _, rest, hrest, by simp [feed]⟩
    rw [Node.isEmptyText, List.isEmpty_eq_false_iff.2 hmarks]
    rfl

/-- The children of a paragraph that keeps to the rules, in the texts of which there are no line
feeds. -/
def IsRow (nodes : List Node) : Prop :=
  ∀ node ∈ nodes, ∃ content marks, node = .text content marks ∧ '\n' ∉ content.toList

variable {underline : Bool} {nodes : List Node}

theorem endsLine_row (h : IsRow nodes) (ls : List Lexeme) :
    endsLine (allLexemes underline nodes ++ ls) = (nodes.all Node.isSpacing && endsLine ls) := by
  induction nodes with
  | nil => rfl
  | cons node rest ih =>
    obtain ⟨⟨content, marks, rfl, hcontent⟩, hrest⟩ := List.forall_mem_cons.1 h
    rw [allLexemes, nodeLexemes, List.append_assoc, endsLine_leafLexemes underline marks hcontent,
      ih hrest, List.all_cons, Bool.and_assoc]

theorem row_cases (h : IsRow nodes) :
    (nodes.all Node.isEmptyText = true ∧ allLexemes underline nodes = []) ∨
      (nodes.all Node.isEmptyText = false ∧
        ∃ l ls, allLexemes underline nodes = l :: ls ∧ l ≠ feed) := by
  induction nodes with
  | nil => exact Or.inl ⟨rfl, rfl⟩
  | cons node rest ih =>
    obtain ⟨⟨content, marks, rfl, hcontent⟩, hrest⟩ := List.forall_mem_cons.1 h
    rw [allLexemes, nodeLexemes, List.all_cons]
    rcases leafLexemes_cases underline marks hcontent with ⟨hempty, hnil⟩ | ⟨hshown, l, ls, hls, hl⟩
    · rw [hempty, hnil, List.nil_append, Bool.true_and]
      exact ih hrest
    · rw [hshown, hls]
      exact Or.inr ⟨rfl, l, ls ++ allLexemes underline rest, rfl, hl⟩

theorem isSpacing_of_isEmptyText {node : Node} (h : node.isEmptyText = true) :
    node.isSpacing = true := by
  cases node with
  | branch container children => cases h
  | text content marks =>
    rw [Node.isEmptyText, Bool.and_eq_true, List.isEmpty_iff, List.isEmpty_iff] at h
    rw [Node.isSpacing, h.1, h.2]
    rfl

/-! ### What an item begins with -/

/-- A paragraph whose children are a row, or a list. -/
inductive IsBlock : Node → Prop
  | paragraph {children : List Node} (h : IsRow children) : IsBlock (.branch .paragraph children)
  | bulletList (children : List Node) : IsBlock (.branch .bulletList children)
  | orderedList (start : Int) (children : List Node) : IsBlock (.branch (.orderedList start) children)

theorem nodeLexemes_paragraph (underline : Bool) {children : List Node} (h : children ≠ []) :
    nodeLexemes underline (.branch .paragraph children) =
      allLexemes underline children ++ [feed, feed] := by
  rw [nodeLexemes, enclosedLexemes, List.isEmpty_eq_false_iff.2 h]
  rfl

theorem endsLine_blocks (h : ∀ node ∈ nodes, IsBlock node) :
    endsLine (allLexemes underline nodes) = nodes.head?.any Node.isHollow := by
  cases nodes with
  | nil => rfl
  | cons node rest =>
    rw [allLexemes]
    cases h node (List.mem_cons_self ..) with
    | @paragraph children hrow =>
      by_cases hchildren : children = []
      · subst hchildren
        rfl
      · rw [nodeLexemes_paragraph underline hchildren, List.append_assoc, endsLine_row hrow]
        exact Bool.and_true _
    | bulletList => rfl
    | orderedList => rfl

theorem opensBlank_of_not_isBare {first : Node} (h : first.isBare = false) (others : List Node) :
    Node.opensBlank (first :: others) = false := by
  cases others with
  | nil => rfl
  | cons second rest => rw [Node.opensBlank, h, Bool.false_and, Bool.false_and]

/-- After a paragraph without children only one of two more line feeds is given up. -/
theorem startsBlank_tighten_feed_blocks (h : ∀ node ∈ nodes, IsBlock node) :
    startsBlank (tighten (feed :: allLexemes underline nodes)) =
      Node.opensBlank (.branch .paragraph [] :: nodes) := by
  cases nodes with
  | nil => rfl
  | cons second rest =>
    obtain ⟨hsecond, hrest⟩ := List.forall_mem_cons.1 h
    rw [allLexemes]
    cases hsecond with
    | @paragraph children hrow =>
      by_cases hchildren : children = []
      · subst hchildren
        exact startsBlank_tighten_feeds.trans (endsLine_blocks hrest)
      · have hopens : Node.opensBlank
            (.branch .paragraph [] :: .branch .paragraph children :: rest) =
              children.all Node.isSpacing := by
          have hnonempty : children.isEmpty = false := List.isEmpty_eq_false_iff.2 hchildren
          simp [Node.opensBlank, Node.isBare, Node.isHollow, Node.children, hnonempty]
        rw [hopens, nodeLexemes_paragraph underline hchildren, List.append_assoc]
        rcases row_cases hrow with ⟨hempty, hnil⟩ | ⟨-, l, ls, hls, hl⟩
        · have hspacing : children.all Node.isSpacing = true :=
            List.all_eq_true.2 fun node hnode =>
              isSpacing_of_isEmptyText (List.all_eq_true.1 hempty node hnode)
          rw [hnil, hspacing]
          exact startsBlank_tighten_feeds
        · have hhead : (allLexemes underline children ++
              ([feed, feed] ++ allLexemes underline rest)).head? ≠ some feed := by
            rw [hls]
            simpa using hl
          rw [startsBlank_tighten_feed hhead, endsLine_row hrow]
          exact Bool.and_true _
    | bulletList =>
      exact startsBlank_tighten_feed fun hhead => Lexeme.noConfusion (Option.some.inj hhead)
    | orderedList =>
      exact startsBlank_tighten_feed fun hhead => Lexeme.noConfusion (Option.some.inj hhead)

/-- The text of an item begins with a blank line exactly in these cases. -/
theorem startsBlank_tighten_blocks (h : ∀ node ∈ nodes, IsBlock node) :
    startsBlank (tighten (allLexemes underline nodes)) = Node.opensBlank nodes := by
  cases nodes with
  | nil => rfl
  | cons first others =>
    obtain ⟨hfirst, hothers⟩ := List.forall_mem_cons.1 h
    cases hfirst with
    | @paragraph children hrow =>
      by_cases hchildren : children = []
      · subst hchildren
        exact startsBlank_tighten_feed_blocks hothers
      · rw [allLexemes, nodeLexemes_paragraph underline hchildren, List.append_assoc]
        rcases row_cases hrow with ⟨hempty, hnil⟩ | ⟨hshown, l, ls, hls, hl⟩
        · have hopens : Node.opensBlank (.branch .paragraph children :: others) =
              others.head?.any Node.isHollow := by
            have hnonempty : children.isEmpty = false := List.isEmpty_eq_false_iff.2 hchildren
            cases others <;>
              simp [Node.opensBlank, Node.isBare, Node.children, hnonempty, hempty]
          rw [hopens, hnil]
          exact startsBlank_tighten_feeds.trans (endsLine_blocks hothers)
        · have hbare : (Node.branch .paragraph children).isBare = false := hshown
          rw [opensBlank_of_not_isBare hbare, hls]
          exact startsBlank_tighten_of_ne hl
    | bulletList inner =>
      have hbare : (Node.branch .bulletList inner).isBare = false := rfl
      rw [opensBlank_of_not_isBare hbare]
      exact startsBlank_tighten_of_ne (by decide)
    | orderedList start inner =>
      have hbare : (Node.branch (.orderedList start) inner).isBare = false := rfl
      rw [opensBlank_of_not_isBare hbare]
      exact startsBlank_tighten_of_ne (by decide)

end Latex

end Vitae
