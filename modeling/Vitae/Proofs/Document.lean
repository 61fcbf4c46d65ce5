import Vitae.Rules

/-!
# What a document holds

The parts of a document that statements about it speak of: its leaves in document order with their
contents and marks, the first numbers of its ordered lists, and how many levels it has.
-/

namespace Vitae

/-- Induction over trees: what holds of all children of a node holds of the node. -/
@[elab_as_elim]
theorem Node.tree_induction {motive : Node → Prop}
    (text : ∀ content marks, motive (.text content marks))
    (branch : ∀ container children, (∀ child ∈ children, motive child) →
      motive (.branch container children)) (tree : Node) : motive tree :=
  @Node.rec motive (fun children => ∀ child ∈ children, motive child) text branch
    (fun _ h => absurd h List.not_mem_nil)
    (fun _ _ hfirst hrest => List.forall_mem_cons.2 ⟨hfirst, hrest⟩) tree

/-! ### Leaves -/

theorem filterMap_reverse_cons {α β : Type} (f : α → Option β) (a : α) (rest : List α) :
    (a :: rest).reverse.filterMap f = rest.reverse.filterMap f ++ (f a).toList := by
  rw [List.reverse_cons, List.filterMap_append]
  cases h : f a <;> simp [h]

namespace Node

mutual

/-- The leaves of a tree in document order: content and marks. -/
def leaves : Node → List (String × List Mark)
  | .text content marks => [(content, marks)]
  | .branch _ children => allLeaves children

def allLeaves : List Node → List (String × List Mark)
  | [] => []
  | child :: rest => leaves child ++ allLeaves rest

end

theorem allLeaves_append (a b : List Node) : allLeaves (a ++ b) = allLeaves a ++ allLeaves b := by
  induction a with
  | nil => rfl
  | cons node rest ih => rw [List.cons_append, allLeaves, allLeaves, ih, List.append_assoc]

def plainText (node : Node) : List Char := node.leaves.flatMap fun l => l.1.toList

def marks (node : Node) : List Mark := node.leaves.flatMap (·.2)

theorem flatMap_allLeaves {α : Type} (f : String × List Mark → List α) (nodes : List Node) :
    (allLeaves nodes).flatMap f = nodes.flatMap fun node => node.leaves.flatMap f := by
  induction nodes with
  | nil => rfl
  | cons node rest ih => rw [allLeaves, List.flatMap_append, ih, List.flatMap_cons]

theorem plainText_branch (container : Container Int) (children : List Node) :
    (Node.branch container children).plainText = children.flatMap plainText :=
  flatMap_allLeaves _ children

theorem marks_branch (container : Container Int) (children : List Node) :
    (Node.branch container children).marks = children.flatMap marks :=
  flatMap_allLeaves _ children

/-- What `f` makes of the marks of each leaf, from the outermost mark inwards. -/
def fromMarks {α : Type} (f : Mark → Option α) (node : Node) : List α :=
  node.leaves.flatMap fun l => l.2.reverse.filterMap f

theorem fromMarks_branch {α : Type} (f : Mark → Option α) (container : Container Int)
    (children : List Node) :
    (Node.branch container children).fromMarks f = children.flatMap (fromMarks f) :=
  flatMap_allLeaves _ children

/-! ### First numbers and levels -/

mutual

def starts : Node → List Int
  | .text .. => []
  | .branch (.orderedList start) children => start :: allStarts children
  | .branch _ children => allStarts children

def allStarts : List Node → List Int
  | [] => []
  | child :: rest => starts child ++ allStarts rest

end

theorem mem_allStarts {start : Int} {child : Node} {nodes : List Node} (hchild : child ∈ nodes)
    (hstart : start ∈ child.starts) : start ∈ allStarts nodes := by
  induction nodes with
  | nil => simp at hchild
  | cons node rest ih =>
    rw [allStarts, List.mem_append]
    rcases List.mem_cons.1 hchild with rfl | hrest
    · exact Or.inl hstart
    · exact Or.inr (ih hrest)

theorem mem_starts_branch {container : Container Int} {start : Int} {child : Node}
    {nodes : List Node} (hchild : child ∈ nodes) (hstart : start ∈ child.starts) :
    start ∈ (Node.branch container nodes).starts := by
  have hmem := mem_allStarts hchild hstart
  cases container with
  | orderedList first => exact List.mem_cons_of_mem _ hmem
  | _ => exact hmem

mutual

/-- The number of levels of a tree; a node without children is one. -/
def levels : Node → Nat
  | .text .. => 1
  | .branch _ children => 1 + allLevels children

def allLevels : List Node → Nat
  | [] => 0
  | child :: rest => max (levels child) (allLevels rest)

end

end Node

/-! ### Link attributes -/

def Json.IsAttribute (value : Json) : Prop := value = .null ∨ ∃ s, value = .str s

/-- The text of an attribute; one that is not set has none. -/
def Json.attributeText : Json → List Char
  | .str s => s.toList
  | _ => []

/-- An attribute counts as false exactly if it has no text. -/
theorem Json.IsAttribute.cases {value : Json} (h : value.IsAttribute) :
    (value.truthy = false ∧ value.attributeText = []) ∨
      (value.truthy = true ∧ ∃ s, value = .str s ∧ s.toList ≠ []) := by
  rcases h with rfl | ⟨s, rfl⟩
  · exact Or.inl ⟨rfl, rfl⟩
  · by_cases hs : s = ""
    · subst hs
      exact Or.inl ⟨rfl, rfl⟩
    · refine Or.inr ⟨by simpa [Json.truthy] using hs, s, rfl, ?_⟩
      simpa using hs

/-- Are the attributes null or strings, if the mark is a link? -/
def Mark.HasAttributes : Mark → Prop
  | .link href target className =>
    href.IsAttribute ∧ target.IsAttribute ∧ className.IsAttribute
  | _ => True

end Vitae
