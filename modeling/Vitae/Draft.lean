import Vitae.Document

/-!
# Unchecked trees

A draft has the shape of a document, but any value may stand where a node, a mark, a text or a
number is meant: also a mark among children, a node among marks, or any other object. Drafts are
what the structural rules are checked on; those in which every value is of the right kind are
exactly the documents.
-/

namespace Vitae

inductive DraftMark where
  | mark (m : Mark)
  | value (v : Json)
  deriving Repr, Inhabited

/-- A tree in which any value may stand in any place. -/
inductive Draft where
  | text (content : Json) (marks : List DraftMark)
  | branch (container : Container Json) (children : List Draft)
  | value (v : Json)
  deriving Repr, Inhabited

namespace Draft

def title : Draft → String
  | .text .. => "Text"
  | .branch container _ => container.title
  | .value v => v.typeName

mutual

def ofNode : Node → Draft
  | .text content marks => .text (.str content) (marks.map .mark)
  | .branch container children => .branch (container.map .int) (ofNodes children)

def ofNodes : List Node → List Draft
  | [] => []
  | child :: rest => ofNode child :: ofNodes rest

end

theorem ofNodes_eq_map (nodes : List Node) : ofNodes nodes = nodes.map ofNode := by
  induction nodes with
  | nil => rfl
  | cons child rest ih => simp [ofNodes, ih]

def mark? : DraftMark → Option Mark
  | .mark m => some m
  | .value _ => none

/-- The container with an integer as its first number, if it has one. -/
def container? : Container Json → Option (Container Int)
  | .doc => some .doc
  | .paragraph => some .paragraph
  | .bulletList => some .bulletList
  | .orderedList (.int n) => some (.orderedList n)
  | .orderedList _ => none
  | .listItem => some .listItem

mutual

def toNode? : Draft → Option Node
  | .text (.str content) marks => (marks.mapM mark?).map (.text content)
  | .text _ _ => none
  | .branch container children => do
    let container ← container? container
    let children ← toNodes? children
    pure (.branch container children)
  | .value _ => none

def toNodes? : List Draft → Option (List Node)
  | [] => some []
  | child :: rest => do
    let child ← toNode? child
    let rest ← toNodes? rest
    pure (child :: rest)

end

theorem mapM_mark? (marks : List Mark) : (marks.map DraftMark.mark).mapM mark? = some marks := by
  induction marks with
  | nil => rfl
  | cons mark rest ih => simp [List.mapM_cons, mark?, ih]

theorem container?_map (container : Container Int) :
    container? (container.map .int) = some container := by
  cases container <;> rfl

mutual

theorem toNode?_ofNode : (node : Node) → (ofNode node).toNode? = some node
  | .text content marks => by simp only [ofNode, toNode?, mapM_mark?, Option.map_some]
  | .branch container children => by
    simp [ofNode, toNode?, container?_map, toNodes?_ofNodes children]

theorem toNodes?_ofNodes : (nodes : List Node) → toNodes? (ofNodes nodes) = some nodes
  | [] => rfl
  | child :: rest => by
    simp [ofNodes, toNodes?, toNode?_ofNode child, toNodes?_ofNodes rest]

end

mutual

/-- The draft with one in the place of every first number that is no integer. Nothing changes for a
format that does not show first numbers. -/
def renumber : Draft → Draft
  | .branch container children =>
    .branch (container.map fun start => if start matches .int _ then start else .int 1)
      (renumberAll children)
  | draft => draft

def renumberAll : List Draft → List Draft
  | [] => []
  | child :: rest => renumber child :: renumberAll rest

end

/-- A row of an outline: depth, name, number of children, and the marks' names for a leaf. -/
structure Row where
  depth : Nat
  tag : String
  size : Nat
  marks : Option (List String)

mutual

/-- The outline of a draft in document order, if only nodes and marks stand in their places. -/
def outline (depth : Nat) : Draft → Option (List Row)
  | .text _ marks =>
    (marks.mapM mark?).map fun marks => [⟨depth, "text", 0, some (marks.map Mark.tag)⟩]
  | .branch container children =>
    (outlines (depth + 1) children).map (⟨depth, container.tag, children.length, none⟩ :: ·)
  | .value _ => none

def outlines (depth : Nat) : List Draft → Option (List Row)
  | [] => some []
  | child :: rest =>
    match outline depth child with
    | none => none
    | some rows => (outlines depth rest).map (rows ++ ·)

end

def sameMark : DraftMark → DraftMark → Bool
  | .mark a, .mark b => a.same b
  | .value a, .value b => a.same b
  | _, _ => false

def sameMarks : List DraftMark → List DraftMark → Bool
  | [], [] => true
  | a :: as, b :: bs => sameMark a b && sameMarks as bs
  | _, _ => false

def sameContainer : Container Json → Container Json → Bool
  | .orderedList a, .orderedList b => a.same b
  | a, b => a.tag == b.tag

mutual

def same : Draft → Draft → Bool
  | .text a as, .text b bs => a.same b && sameMarks as bs
  | .branch c as, .branch d bs => sameContainer c d && sameChildren as bs
  | .value a, .value b => a.same b
  | _, _ => false

def sameChildren : List Draft → List Draft → Bool
  | [], [] => true
  | a :: as, b :: bs => same a b && sameChildren as bs
  | _, _ => false

end

end Draft

end Vitae
