import Vitae.Markdown.Token
import Vitae.Proofs.Editor.RoundTrip

/-!
# Documents of token forests

A tokenizer puts blocks among blocks, items into lists and inline tokens into paragraphs. Documents
made of such forests break no structural rule, and the editor's format keeps them.
-/

namespace Vitae.Markdown

/-! ### Places of tokens -/

def Group.place : Group → ChildKind
  | .paragraph => .block
  | .list _ => .block
  | .item => .item

def Group.inside (group : Group) : ChildKind := group.container.childKind

/-- Is the first number of a list, if it has one, of no more digits than are read? -/
def Group.HasShortStart : Group → Prop
  | .list (some start) => Json.intDigits start ≤ Json.digitLimit
  | _ => True

def Style.HasStringUrl : Style → Prop
  | .link url => ∃ s, url = .str s
  | _ => True

mutual

/-- Does the token belong in a place of this kind, and everything inside it where it stands? What
is dropped belongs everywhere. -/
def Token.Fits (place : ChildKind) : Token → Prop
  | .text _ => place = .text
  | .softBreak => place = .text
  | .styled style children => place = .text ∧ style.HasStringUrl ∧ Token.AllFit .text children
  | .group g children => g.place = place ∧ g.HasShortStart ∧ Token.AllFit g.inside children
  | .dropped .. => True

def Token.AllFit (place : ChildKind) : List Token → Prop
  | [] => True
  | token :: rest => Token.Fits place token ∧ Token.AllFit place rest

end

theorem Token.place_of_joinsRun {place : ChildKind} {token : Token} (h : token.Fits place)
    (hjoins : token.joinsRun = true) : place = .text := by
  cases token with
  | text raw => exact h
  | softBreak => exact h
  | styled style children => exact Bool.noConfusion hjoins
  | group group children => exact Bool.noConfusion hjoins
  | dropped kind raw children => exact Bool.noConfusion hjoins

/-! ### What they become -/

/-- A node that may stand in a place of this kind, breaks no rule inside and can be stored. -/
def Conforms (place : ChildKind) (node : Node) : Prop :=
  place.admits (Draft.ofNode node) = true ∧ (Draft.ofNode node).violations = [] ∧ node.Storable

theorem violations_branch {container : Container Int} {nodes : List Node}
    (h : ∀ node ∈ nodes, Conforms container.childKind node) :
    (Draft.ofNode (.branch container nodes)).violations = [] :=
  Draft.violations_branch_eq_nil_iff.2 fun node hnode => ⟨(h node hnode).1, (h node hnode).2.1⟩

theorem mem_allStarts_iff {start : Int} {nodes : List Node} :
    start ∈ Node.allStarts nodes ↔ ∃ node ∈ nodes, start ∈ node.starts := by
  induction nodes with
  | nil => simp [Node.allStarts]
  | cons node rest ih => simp [Node.allStarts, ih]

theorem storable_group {group : Group} {nodes : List Node} (hstart : group.HasShortStart)
    (h : ∀ node ∈ nodes, node.Storable) : (Node.branch group.container nodes).Storable := by
  refine ⟨fun mark hmark => ?_, fun start hmem => ?_⟩
  · rw [Node.marks_branch] at hmark
    obtain ⟨node, hnode, hmark⟩ := List.mem_flatMap.1 hmark
    exact (h node hnode).1 mark hmark
  · have hchild : start ∈ Node.allStarts nodes → Json.intDigits start ≤ Json.digitLimit := by
      intro hall
      obtain ⟨node, hnode, hnodeStart⟩ := mem_allStarts_iff.1 hall
      exact (h node hnode).2 start hnodeStart
    match group, hstart with
    | .list (some first), hfirst =>
      rcases List.mem_cons.1 hmem with rfl | hmem
      · exact hfirst
      · exact hchild hmem
    | .list none, _ => exact hchild hmem
    | .paragraph, _ => exact hchild hmem
    | .item, _ => exact hchild hmem

theorem conforms_group {group : Group} {nodes : List Node} (hstart : group.HasShortStart)
    (h : ∀ node ∈ nodes, Conforms group.inside node) :
    Conforms group.place (.branch group.container nodes) := by
  refine ⟨?_, violations_branch h, storable_group hstart fun node hnode => (h node hnode).2.2⟩
  match group with
  | .paragraph => rfl
  | .list none => rfl
  | .list (some _) => rfl
  | .item => rfl

/-- A leaf conforms where text is meant; an empty run leaves none. -/
theorem conforms_leaf {place : ChildKind} {marks : List Mark} {run : List Char}
    (hmarks : ∀ mark ∈ marks, mark.HasAttributes) (hrun : run = [] ∨ place = .text) :
    ∀ node ∈ leaf marks run, Conforms place node := by
  intro node hnode
  match run, hrun with
  | [], _ => simp [leaf] at hnode
  | c :: cs, hrun =>
    rcases hrun with hrun | rfl
    · exact absurd hrun (List.cons_ne_nil c cs)
    · rw [leaf_cons, List.mem_singleton] at hnode
      subst hnode
      refine ⟨rfl, Draft.violations_text _ _, ?_, ?_⟩
      · intro mark hmark
        exact hmarks mark (by simpa [Node.marks, Node.leaves] using hmark)
      · intro start hstart
        simp [Node.starts] at hstart

/-- The values that every link gets are null or strings. -/
def LinkAttributes.ArePlain (links : LinkAttributes) : Prop :=
  links.target.IsAttribute ∧ links.className.IsAttribute

theorem hasAttributes_mark {links : LinkAttributes} (hlinks : links.ArePlain) {style : Style}
    (hstyle : style.HasStringUrl) : (style.mark links).HasAttributes := by
  match style, hstyle with
  | .strong, _ => trivial
  | .emphasis, _ => trivial
  | .link _, ⟨s, hs⟩ => exact ⟨Or.inr ⟨s, hs⟩, hlinks.1, hlinks.2⟩

mutual

/-- Tokens that belong in their places become nodes that do. Open text stands only where text is
meant. -/
theorem conforms_transformRun {links : LinkAttributes} (hlinks : links.ArePlain) :
    (tokens : List Token) → (place : ChildKind) → (marks : List Mark) → (run : List Char) →
    (∀ mark ∈ marks, mark.HasAttributes) → (run = [] ∨ place = .text) →
    Token.AllFit place tokens → ∀ node ∈ transformRun links marks run tokens, Conforms place node
  | [], place, marks, run, hmarks, hrun, _ => by
    rw [transformRun]
    exact conforms_leaf hmarks hrun
  | token :: rest, place, marks, run, hmarks, hrun, hfit => by
    obtain ⟨htoken, hrest⟩ := hfit
    by_cases hjoins : token.joinsRun = true
    · have hplace := Token.place_of_joinsRun htoken hjoins
      rw [transformRun_join links marks run rest hjoins]
      exact conforms_transformRun hlinks rest place marks _ hmarks (Or.inr hplace) hrest
    · rw [transformRun_flush links marks run rest (by simpa using hjoins), List.forall_mem_append,
        List.forall_mem_append]
      exact ⟨conforms_leaf hmarks hrun, conforms_transformToken hlinks token place marks hmarks htoken,
        conforms_transformRun hlinks rest place marks [] hmarks (Or.inl rfl) hrest⟩

theorem conforms_transformToken {links : LinkAttributes} (hlinks : links.ArePlain) :
    (token : Token) → (place : ChildKind) → (marks : List Mark) →
    (∀ mark ∈ marks, mark.HasAttributes) → Token.Fits place token →
    ∀ node ∈ transformToken links marks token, Conforms place node
  | .text _, _, _, _, _ => by
    simp [transformToken]
  | .softBreak, _, _, _, _ => by
    simp [transformToken]
  | .styled style children, place, marks, hmarks, hfit => by
    obtain ⟨rfl, hurl, hchildren⟩ := hfit
    have hall : ∀ mark ∈ marks ++ [style.mark links], mark.HasAttributes := by
      intro mark hmark
      rcases List.mem_append.1 hmark with hmark | hmark
      · exact hmarks mark hmark
      · rw [List.mem_singleton.1 hmark]
        exact hasAttributes_mark hlinks hurl
    rw [transformToken]
    exact conforms_transformRun hlinks children .text _ [] hall (Or.inl rfl) hchildren
  | .group group children, place, marks, hmarks, hfit => by
    obtain ⟨rfl, hstart, hchildren⟩ := hfit
    have hall := conforms_transformRun hlinks children group.inside marks [] hmarks (Or.inl rfl)
      hchildren
    intro node hnode
    rw [transformToken, List.mem_singleton] at hnode
    subst hnode
    exact conforms_group hstart hall
  | .dropped .., _, _, _, _ => by
    simp [transformToken]

end

end Vitae.Markdown
