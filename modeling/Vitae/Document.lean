import Vitae.Json.Basic

/-!
# Documents

A document is a tree. Its leaves are pieces of text, each with the marks that format it; its inner
nodes are containers: the document itself, paragraphs, lists and list items. The tree does not keep
containers from standing in unusual places; `Vitae.Rules` says where each belongs.
-/

namespace Vitae

/-- Formatting of a text leaf. The attributes of a link are whatever value they were given; an
attribute that is not set is null. -/
inductive Mark where
  | bold
  | italic
  | underline
  | link (href target className : Json)
  deriving Repr, Inhabited

/-- The kinds of inner node. The number of an ordered list's first item is of type `σ`. -/
inductive Container (σ : Type) where
  | doc
  | paragraph
  | bulletList
  | orderedList (start : σ)
  | listItem
  deriving Repr, Inhabited, DecidableEq

/-- A document tree. The marks of a leaf apply in list order, the first one innermost. -/
inductive Node where
  | text (content : String) (marks : List Mark)
  | branch (container : Container Int) (children : List Node)
  deriving Repr, Inhabited

/-! ### Names -/

def Mark.tag : Mark → String
  | .bold => "bold"
  | .italic => "italic"
  | .underline => "underline"
  | .link .. => "link"

def Container.tag {σ : Type} : Container σ → String
  | .doc => "doc"
  | .paragraph => "paragraph"
  | .bulletList => "bulletList"
  | .orderedList _ => "orderedList"
  | .listItem => "listItem"

def Container.title {σ : Type} : Container σ → String
  | .doc => "Doc"
  | .paragraph => "Paragraph"
  | .bulletList => "BulletList"
  | .orderedList _ => "OrderedList"
  | .listItem => "ListItem"

def Container.map {σ τ : Type} (f : σ → τ) : Container σ → Container τ
  | .doc => .doc
  | .paragraph => .paragraph
  | .bulletList => .bulletList
  | .orderedList start => .orderedList (f start)
  | .listItem => .listItem

namespace Node

def doc (children : List Node) : Node := .branch .doc children

def tag : Node → String
  | .text .. => "text"
  | .branch container _ => container.tag

def title : Node → String
  | .text .. => "Text"
  | .branch container _ => container.title

def children : Node → List Node
  | .text .. => []
  | .branch _ children => children

def descendant? (node : Node) : List Int → Option Node
  | [] => some node
  | i :: path =>
    let place := if i < 0 then i + node.children.length else i
    if place < 0 then none
    else
      match node.children[place.toNat]? with
      | some child => child.descendant? path
      | none => none

def addMarks (more : List Mark) : Node → Option Node
  | .text content marks => some (.text content (marks ++ more))
  | .branch .. => none

end Node

/-! ### Equality -/

/-- Equality of marks; link attributes are compared as values. -/
def Mark.same : Mark → Mark → Bool
  | .bold, .bold => true
  | .italic, .italic => true
  | .underline, .underline => true
  | .link h t c, .link h' t' c' => h.same h' && t.same t' && c.same c'
  | _, _ => false

def Mark.sameList : List Mark → List Mark → Bool
  | [], [] => true
  | a :: as, b :: bs => a.same b && Mark.sameList as bs
  | _, _ => false

mutual

def Node.same : Node → Node → Bool
  | .text a as, .text b bs => a == b && Mark.sameList as bs
  | .branch c as, .branch d bs => c == d && Node.sameChildren as bs
  | _, _ => false

def Node.sameChildren : List Node → List Node → Bool
  | [], [] => true
  | a :: as, b :: bs => Node.same a b && Node.sameChildren as bs
  | _, _ => false

end

end Vitae
