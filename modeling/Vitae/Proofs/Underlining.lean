import Vitae.Compile
import Vitae.Proofs.Document

/-!
# Underlined links

Underlining the links of the surrounding document is no more than a change of marks. In HTML it is
as if no link had a target, in LaTeX as if every link came right behind an underlining. So a document
without links is rendered in one way, and the editor's format never depends on the context.
-/

namespace Vitae

/-! ### Other marks -/

namespace Node

mutual

/-- The same tree with other marks on its leaves. -/
def mapMarks (f : List Mark → List Mark) : Node → Node
  | .text content marks => .text content (f marks)
  | .branch container children => .branch container (mapAllMarks f children)

def mapAllMarks (f : List Mark → List Mark) : List Node → List Node
  | [] => []
  | child :: rest => mapMarks f child :: mapAllMarks f rest

end

theorem isEmpty_mapAllMarks (f : List Mark → List Mark) (nodes : List Node) :
    (mapAllMarks f nodes).isEmpty = nodes.isEmpty := by
  cases nodes <;> rfl

mutual

theorem mapMarks_eq_self {f : List Mark → List Mark} : (node : Node) →
    (∀ leaf ∈ node.leaves, f leaf.2 = leaf.2) → node.mapMarks f = node
  | .text content marks, h => by
    have hmarks : f marks = marks := h (content, marks) (List.mem_singleton.2 rfl)
    rw [mapMarks, hmarks]
  | .branch container children, h => by
    rw [mapMarks, mapAllMarks_eq_self children h]

theorem mapAllMarks_eq_self {f : List Mark → List Mark} : (nodes : List Node) →
    (∀ leaf ∈ allLeaves nodes, f leaf.2 = leaf.2) → mapAllMarks f nodes = nodes
  | [], _ => rfl
  | child :: rest, h => by
    have hchild := mapMarks_eq_self child fun leaf hleaf => h leaf (List.mem_append_left _ hleaf)
    have hrest := mapAllMarks_eq_self rest fun leaf hleaf => h leaf (List.mem_append_right _ hleaf)
    rw [mapAllMarks, hchild, hrest]

end

end Node

namespace Mark

def withoutTarget : Mark → Mark
  | .link href _ className => .link href .null className
  | mark => mark

/-- A mark with an underlining right before it if it is a link. -/
def underlined : Mark → List Mark
  | .link href target className => [.underline, .link href target className]
  | mark => [mark]

def IsLink : Mark → Prop
  | .link .. => True
  | _ => False

theorem withoutTarget_of_not_isLink {mark : Mark} (h : ¬ mark.IsLink) : mark.withoutTarget = mark := by
  cases mark with
  | link href target className => exact absurd trivial h
  | _ => rfl

theorem underlined_of_not_isLink {mark : Mark} (h : ¬ mark.IsLink) : mark.underlined = [mark] := by
  cases mark with
  | link href target className => exact absurd trivial h
  | _ => rfl

end Mark

theorem map_withoutTarget_of_not_isLink {marks : List Mark} (h : ∀ mark ∈ marks, ¬ mark.IsLink) :
    marks.map Mark.withoutTarget = marks := by
  have hid : marks.map Mark.withoutTarget = marks.map id :=
    List.map_congr_left fun mark hmark => Mark.withoutTarget_of_not_isLink (h mark hmark)
  rw [hid, List.map_id]

theorem flatMap_underlined_of_not_isLink {marks : List Mark} (h : ∀ mark ∈ marks, ¬ mark.IsLink) :
    marks.flatMap Mark.underlined = marks := by
  induction marks with
  | nil => rfl
  | cons mark rest ih =>
    rw [List.flatMap_cons, Mark.underlined_of_not_isLink (h mark (List.mem_cons_self ..)),
      ih fun m hm => h m (List.mem_cons_of_mem _ hm)]
    rfl

/-! ### Two ways of rendering -/

/-- One way of rendering does with any leaf what another does with its marks changed, and both
treat alike what they have rendered of the children. -/
structure Mimics (f : List Mark → List Mark) (render render' : Node → Except Failure (List Char))
    (renderAll renderAll' : List Node → Except Failure (List Char)) : Prop where
  text : ∀ content marks, render (.text content marks) = render' (.text content (f marks))
  branch : ∀ container children others, others.isEmpty = children.isEmpty →
    renderAll children = renderAll' others →
    render (.branch container children) = render' (.branch container others)
  nil : renderAll [] = renderAll' []
  cons : ∀ child rest other others, render child = render' other →
    renderAll rest = renderAll' others → renderAll (child :: rest) = renderAll' (other :: others)

namespace Mimics

variable {f : List Mark → List Mark} {render render' : Node → Except Failure (List Char)}
  {renderAll renderAll' : List Node → Except Failure (List Char)}

mutual

/-- The two ways agree on a tree and the tree with its marks changed. -/
theorem render_eq (h : Mimics f render render' renderAll renderAll') : (node : Node) →
    render node = render' (node.mapMarks f)
  | .text content marks => h.text content marks
  | .branch container children =>
    h.branch container children _ (Node.isEmpty_mapAllMarks f children) (h.renderAll_eq children)

theorem renderAll_eq (h : Mimics f render render' renderAll renderAll') : (nodes : List Node) →
    renderAll nodes = renderAll' (Node.mapAllMarks f nodes)
  | [] => h.nil
  | child :: rest => h.cons child rest _ _ (h.render_eq child) (h.renderAll_eq rest)

end

end Mimics

/-! ### HTML -/

namespace Html

theorem applyMark_underlined (style : Style) (body : List Char) (mark : Mark) :
    applyMark style true body mark = applyMark style false body mark.withoutTarget := by
  cases mark <;> rfl

theorem applyMarks_underlined (style : Style) (body : List Char) (marks : List Mark) :
    applyMarks style true body marks =
      applyMarks style false body (marks.map Mark.withoutTarget) := by
  induction marks generalizing body with
  | nil => rfl
  | cons mark rest ih =>
    rw [List.map_cons, applyMarks, applyMarks, applyMark_underlined]
    cases applyMark style false body mark.withoutTarget with
    | error e => rfl
    | ok body => exact ih body

theorem mimics_underlined (style : Style) :
    Mimics (·.map Mark.withoutTarget) (render style true) (render style false)
      (renderAll style true) (renderAll style false) where
  text content marks := by
    rw [render, render, applyMarks_underlined]
  branch container children others _ hall := by
    rw [render, render, hall]
  nil := rfl
  cons child rest other others hchild hrest := by
    rw [renderAll, renderAll, hchild, hrest]

end Html

/-! ### LaTeX -/

namespace Latex

theorem applyMarks_underlined (style : Style) (body : List Char) (marks : List Mark) :
    applyMarks style true body marks =
      applyMarks style false body (marks.flatMap Mark.underlined) := by
  induction marks generalizing body with
  | nil => rfl
  | cons mark rest ih =>
    cases mark with
    | link href target className =>
      -- The underlining that the context brings is that of the mark before the link.
      have hlink : applyMark style true body (.link href target className) =
          applyMark style false (command "underline" body) (.link href target className) := rfl
      rw [List.flatMap_cons, applyMarks, hlink]
      change _ = applyMarks style false (command "underline" body)
        (.link href target className :: rest.flatMap Mark.underlined)
      rw [applyMarks]
      cases applyMark style false (command "underline" body) (.link href target className) with
      | error e => rfl
      | ok body => exact ih body
    | bold => exact ih (command "textbf" body)
    | italic => exact ih (command "textit" body)
    | underline => exact ih (command "underline" body)

theorem mimics_underlined (style : Style) :
    Mimics (·.flatMap Mark.underlined) (render style true) (render style false)
      (renderAll style true) (renderAll style false) where
  text content marks := by
    rw [render, render, applyMarks_underlined]
  branch container children others hempty hall := by
    rw [render, render, hall, hempty]
  nil := rfl
  cons child rest other others hchild hrest := by
    rw [renderAll, renderAll, hchild, hrest]

end Latex

/-! ### Writers -/

theorem Html.render_underlined (style : Html.Style) (node : Node) :
    Html.render style true node =
      Html.render style false (node.mapMarks (·.map Mark.withoutTarget)) :=
  (Html.mimics_underlined style).render_eq node

theorem Latex.render_underlined (style : Latex.Style) (node : Node) :
    Latex.render style true node =
      Latex.render style false (node.mapMarks (·.flatMap Mark.underlined)) :=
  (Latex.mimics_underlined style).render_eq node

theorem Writer.generate_eq_write {w : Writer} {value : Json} {context : Context} (node : Node)
    (h : Context.ofValue value = .ok context) : w.generate value node = w.write context node := by
  obtain ⟨format, options⟩ := w
  cases format with
  | html => simp only [Writer.generate, h]
  | latex => simp only [Writer.generate, h]
  | tree => rfl

/-- Without links there is nothing that a context could change. -/
theorem Writer.write_of_not_isLink (w : Writer) (context context' : Context) {node : Node}
    (h : ∀ mark ∈ node.marks, ¬ mark.IsLink) : w.write context node = w.write context' node := by
  have hleaf : ∀ leaf ∈ node.leaves, ∀ mark ∈ leaf.2, ¬ mark.IsLink := fun leaf hleaf mark hmark =>
    h mark (List.mem_flatMap.2 ⟨leaf, hleaf, hmark⟩)
  have hhtml : ∀ style underline, Html.render style underline node = Html.render style false node := by
    intro style underline
    cases underline with
    | false => rfl
    | true =>
      rw [Html.render_underlined, Node.mapMarks_eq_self node fun leaf hl =>
        map_withoutTarget_of_not_isLink (hleaf leaf hl)]
  have hlatex : ∀ style underline,
      Latex.render style underline node = Latex.render style false node := by
    intro style underline
    cases underline with
    | false => rfl
    | true =>
      rw [Latex.render_underlined, Node.mapMarks_eq_self node fun leaf hl =>
        flatMap_underlined_of_not_isLink (hleaf leaf hl)]
  obtain ⟨format, options⟩ := w
  cases format with
  | html => simp only [Writer.write, hhtml]
  | latex => simp only [Writer.write, hlatex]
  | tree => rfl

/-- What a writer makes of a document where links are underlined it makes, where they are not, of a
document with other marks: without the targets of links in HTML, with an underlining right before
every link in LaTeX. A document without links is written alike in all contexts, and the editor's
format is the same in any. -/
theorem generate_underlined (node : Node) (options : Options) {underlining plain : Json}
    (hunderlining : Context.ofValue underlining = .ok ⟨true⟩)
    (hplain : Context.ofValue plain = .ok ⟨false⟩) :
    Writer.generate ⟨.html, options⟩ underlining node =
        Writer.generate ⟨.html, options⟩ plain (node.mapMarks (·.map Mark.withoutTarget)) ∧
      Writer.generate ⟨.latex, options⟩ underlining node =
        Writer.generate ⟨.latex, options⟩ plain (node.mapMarks (·.flatMap Mark.underlined)) ∧
      ((∀ mark ∈ node.marks, ¬ mark.IsLink) → ∀ format value value' context context',
        Context.ofValue value = .ok context → Context.ofValue value' = .ok context' →
        Writer.generate ⟨format, options⟩ value node =
          Writer.generate ⟨format, options⟩ value' node) ∧
      ∀ value value', Writer.generate ⟨.tree, options⟩ value node =
        Writer.generate ⟨.tree, options⟩ value' node := by
  refine ⟨?_, ?_, ?_, fun value value' => rfl⟩
  · rw [Writer.generate_eq_write _ hunderlining, Writer.generate_eq_write _ hplain]
    simp only [Writer.write, Html.render_underlined]
  · rw [Writer.generate_eq_write _ hunderlining, Writer.generate_eq_write _ hplain]
    simp only [Writer.write, Latex.render_underlined]
  · intro hlinks format value value' context context' hvalue hvalue'
    rw [Writer.generate_eq_write _ hvalue, Writer.generate_eq_write _ hvalue']
    exact Writer.write_of_not_isLink _ context context' hlinks

/-- A leaf with a link between other marks, and another link outermost. -/
theorem generate_underlined_twice :
    Writer.generate ⟨.html, .default .htmlWriter⟩
        (.obj [("typography", .obj [("links", .obj [("underline", .bool true)])])])
        (.text "x" [.bold, .link (.str "u") (.str "t") .null, .link .null (.int 5) .null]) =
      Writer.generate ⟨.html, .default .htmlWriter⟩ .null
        (.text "x" [.bold, .link (.str "u") .null .null, .link .null .null .null]) ∧
    Writer.generate ⟨.latex, .default .latexWriter⟩
        (.obj [("typography", .obj [("links", .obj [("underline", .bool true)])])])
        (.text "x" [.bold, .link (.str "u") (.str "t") .null, .link .null (.int 5) .null]) =
      Writer.generate ⟨.latex, .default .latexWriter⟩ .null
        (.text "x" [.bold, .underline, .link (.str "u") (.str "t") .null, .underline,
          .link .null (.int 5) .null]) := by
  have hunderlining : Context.ofValue
      (.obj [("typography", .obj [("links", .obj [("underline", .bool true)])])]) = .ok ⟨true⟩ := rfl
  have hplain : Context.ofValue .null = .ok ⟨false⟩ := rfl
  have h := fun options => generate_underlined
    (.text "x" [.bold, .link (.str "u") (.str "t") .null, .link .null (.int 5) .null]) options
    hunderlining hplain
  exact ⟨(h _).1, (h _).2.1⟩

end Vitae
