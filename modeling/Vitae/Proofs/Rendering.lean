import Vitae.Proofs.Editor.Strict
import Vitae.Proofs.Results

/-!
# Which documents are rendered

A writer that escapes needs strings for the attributes of links. It makes a text of a document
exactly if every attribute that it writes is one, and else fails in one way. Strict reading does not
look at these attributes, so it takes documents that no writer of this kind makes a text of.
-/

namespace Vitae

/-! ### Outcomes -/

/-- A result that is there if the condition holds, and this failure if not. -/
structure Settles {α : Type} (failure : Failure) (p : Prop) (r : Except Failure α) : Prop where
  ok : p → ∃ out, r = .ok out
  error : ¬ p → r = .error failure

namespace Settles

variable {α β : Type} {failure : Failure} {p q : Prop} {r : Except Failure α}

theorem of_iff (h : Settles failure p r) (hpq : p ↔ q) : Settles failure q r where
  ok hq := h.ok (hpq.2 hq)
  error hq := h.error fun hp => hq (hpq.1 hp)

theorem pure {out : α} (hp : p) : Settles failure p (.ok out) where
  ok _ := ⟨out, rfl⟩
  error hn := absurd hp hn

theorem fail (hn : ¬ p) : Settles failure p (.error failure : Except Failure α) where
  ok hp := absurd hp hn
  error _ := rfl

theorem map (h : Settles failure p r) (f : α → β) : Settles failure p (r.map f) where
  ok hp := by
    obtain ⟨out, rfl⟩ := h.ok hp
    exact ⟨f out, rfl⟩
  error hn := by
    rw [h.error hn]
    rfl

theorem bind (h : Settles failure p r) {f : α → Except Failure β}
    (hf : ∀ out, Settles failure q (f out)) : Settles failure (p ∧ q) (r.bind f) where
  ok hpq := by
    obtain ⟨out, rfl⟩ := h.ok hpq.1
    exact (hf out).ok hpq.2
  error hn := by
    by_cases hp : p
    · obtain ⟨out, rfl⟩ := h.ok hp
      exact (hf out).error fun hq => hn ⟨hp, hq⟩
    · rw [h.error hp]
      rfl

end Settles

/-! ### Trees -/

/-- A writer that goes through a tree: it applies marks to texts one after the other, encloses the
texts of children and joins those of siblings. -/
structure Walks (apply : List Char → Mark → Except Failure (List Char))
    (applyAll : List Char → List Mark → Except Failure (List Char))
    (render : Node → Except Failure (List Char))
    (renderAll : List Node → Except Failure (List Char)) : Prop where
  unmarked : ∀ body, applyAll body [] = .ok body
  marked : ∀ body mark rest,
    applyAll body (mark :: rest) = (apply body mark).bind fun body => applyAll body rest
  text : ∀ content marks, ∃ body, render (.text content marks) = applyAll body marks
  branch : ∀ container children, ∃ enclose,
    render (.branch container children) = (renderAll children).map enclose
  nil : renderAll [] = .ok []
  cons : ∀ child rest,
    renderAll (child :: rest) = (render child).bind fun text => (renderAll rest).map (text ++ ·)

namespace Walks

variable {failure : Failure} {p : Mark → Prop}
  {apply : List Char → Mark → Except Failure (List Char)}
  {applyAll : List Char → List Mark → Except Failure (List Char)}
  {render : Node → Except Failure (List Char)} {renderAll : List Node → Except Failure (List Char)}

theorem settles_marks (h : Walks apply applyAll render renderAll)
    (happly : ∀ body mark, Settles failure (p mark) (apply body mark)) (marks : List Mark)
    (body : List Char) : Settles failure (∀ mark ∈ marks, p mark) (applyAll body marks) := by
  induction marks generalizing body with
  | nil =>
    rw [h.unmarked]
    exact .pure (by simp)
  | cons mark rest ih =>
    rw [h.marked]
    exact ((happly body mark).bind ih).of_iff List.forall_mem_cons.symm

mutual

theorem settles (h : Walks apply applyAll render renderAll)
    (happly : ∀ body mark, Settles failure (p mark) (apply body mark)) : (node : Node) →
    Settles failure (∀ mark ∈ node.marks, p mark) (render node)
  | .text content marks => by
    obtain ⟨body, hbody⟩ := h.text content marks
    rw [hbody]
    refine (h.settles_marks happly marks body).of_iff ?_
    simp [Node.marks, Node.leaves]
  | .branch container children => by
    obtain ⟨enclose, henclose⟩ := h.branch container children
    rw [henclose]
    refine ((h.settlesAll happly children).map enclose).of_iff ?_
    rw [Node.marks_branch, List.forall_mem_flatMap]

theorem settlesAll (h : Walks apply applyAll render renderAll)
    (happly : ∀ body mark, Settles failure (p mark) (apply body mark)) : (nodes : List Node) →
    Settles failure (∀ node ∈ nodes, ∀ mark ∈ node.marks, p mark) (renderAll nodes)
  | [] => by
    rw [h.nil]
    exact .pure (by simp)
  | child :: rest => by
    rw [h.cons]
    have hall := (h.settles happly child).bind fun text => (h.settlesAll happly rest).map (text ++ ·)
    refine hall.of_iff ?_
    rw [List.forall_mem_cons]

end

theorem failsOnlyWith_marks {code : Nat} (h : Walks apply applyAll render renderAll)
    (happly : ∀ body mark, FailsOnlyWith (apply body mark) code) (marks : List Mark)
    (body : List Char) : FailsOnlyWith (applyAll body marks) code := by
  induction marks generalizing body with
  | nil =>
    rw [h.unmarked]
    exact .ok body
  | cons mark rest ih =>
    rw [h.marked]
    exact (happly body mark).bind fun body _ => ih body

mutual

theorem failsOnlyWith {code : Nat} (h : Walks apply applyAll render renderAll)
    (happly : ∀ body mark, FailsOnlyWith (apply body mark) code) : (node : Node) →
    FailsOnlyWith (render node) code
  | .text content marks => by
    obtain ⟨body, hbody⟩ := h.text content marks
    rw [hbody]
    exact h.failsOnlyWith_marks happly marks body
  | .branch container children => by
    obtain ⟨enclose, henclose⟩ := h.branch container children
    rw [henclose]
    exact (h.failsOnlyWithAll happly children).map enclose

theorem failsOnlyWithAll {code : Nat} (h : Walks apply applyAll render renderAll)
    (happly : ∀ body mark, FailsOnlyWith (apply body mark) code) : (nodes : List Node) →
    FailsOnlyWith (renderAll nodes) code
  | [] => by
    rw [h.nil]
    exact .ok []
  | child :: rest => by
    rw [h.cons]
    exact (h.failsOnlyWith happly child).bind fun text _ =>
      (h.failsOnlyWithAll happly rest).map (text ++ ·)

end

end Walks

/-! ### Attributes -/

/-- Can a writer that escapes write the attribute? One that counts as false is left out or replaced;
of the others only strings can be escaped. -/
def Json.IsWritable (value : Json) : Prop := value.truthy = true → ∃ s, value = .str s

/-- Can HTML show the mark? It shows targets only where links are not underlined. -/
def Mark.IsHtml (underline : Bool) : Mark → Prop
  | .link href target className =>
    href.IsWritable ∧ (underline = false → target.IsWritable) ∧ className.IsWritable
  | _ => True

def Mark.IsLatex : Mark → Prop
  | .link href _ _ => href.IsWritable
  | _ => True

namespace Html

theorem settles_attr (d : Json) (name : String) (value : Json) :
    Settles .noSuchMember (∃ s, value = .str s) (attr ⟨true, d⟩ name value) := by
  refine Settles.map ?_ _
  cases value with
  | str s => exact .pure ⟨s, rfl⟩
  | _ => exact .fail (by simp)

theorem settles_attr? (d : Json) (name : String) (value : Json) :
    Settles .noSuchMember value.IsWritable (attr? ⟨true, d⟩ name value) := by
  rw [attr?]
  by_cases htruthy : value.truthy = true
  · rw [if_pos htruthy]
    exact (settles_attr d name value).of_iff ⟨fun h _ => h, fun h => h htruthy⟩
  · rw [if_neg htruthy]
    exact .pure fun h => absurd h htruthy

theorem settles_anchor (d : String) (underline : Bool) (href target className : Json)
    (body : List Char) :
    Settles .noSuchMember ((Mark.link href target className).IsHtml underline)
      (anchor ⟨true, .str d⟩ underline href target className body) := by
  have hhref : Settles .noSuchMember href.IsWritable
      (attr ⟨true, .str d⟩ "href" (if href.truthy then href else .str d)) := by
    refine (settles_attr _ _ _).of_iff ?_
    by_cases htruthy : href.truthy = true
    · rw [if_pos htruthy]
      exact ⟨fun h _ => h, fun h => h htruthy⟩
    · rw [if_neg htruthy]
      exact ⟨fun _ h => absurd h htruthy, fun _ => ⟨d, rfl⟩⟩
  cases underline with
  | true =>
    have hrest := hhref.bind fun href => (settles_attr? (.str d) "class" className).map fun shown =>
      "<a".toList ++ (href ++ ([] ++ (shown ++ ('>' :: (body ++ "</a>".toList)))))
    exact hrest.of_iff (by simp [Mark.IsHtml])
  | false =>
    have hrest := hhref.bind fun href => (settles_attr? (.str d) "target" target).bind fun target =>
      (settles_attr? (.str d) "class" className).map fun shown =>
        "<a".toList ++ (href ++ (target ++ (shown ++ ('>' :: (body ++ "</a>".toList)))))
    exact hrest.of_iff (by simp [Mark.IsHtml])

theorem settles_applyMark (d : String) (underline : Bool) (body : List Char) (mark : Mark) :
    Settles .noSuchMember (mark.IsHtml underline) (applyMark ⟨true, .str d⟩ underline body mark) := by
  cases mark with
  | link href target className => exact settles_anchor d underline href target className body
  | _ => exact .pure trivial

theorem walks (style : Style) (underline : Bool) :
    Walks (applyMark style underline) (applyMarks style underline) (render style underline)
      (renderAll style underline) where
  unmarked _ := rfl
  marked body mark rest := by
    rw [applyMarks]
    cases applyMark style underline body mark <;> rfl
  text content marks := ⟨_, by rw [render]⟩
  branch container children := ⟨_, by rw [render]⟩
  nil := by rw [renderAll]
  cons child rest := by
    rw [renderAll]
    cases render style underline child <;> rfl

end Html

namespace Latex

theorem settles_url (href : Json) : Settles .wrongType href.IsWritable (Style.url ⟨true, true⟩ href) := by
  unfold Style.url
  by_cases htruthy : href.truthy = true
  · rw [if_pos htruthy]
    cases href with
    | str s =>
      have hwritable : (Json.str s).IsWritable := fun _ => ⟨s, rfl⟩
      exact .pure hwritable
    | _ =>
      refine .fail fun hwritable => ?_
      obtain ⟨s, hs⟩ := hwritable htruthy
      cases hs
  · rw [if_neg htruthy]
    exact .pure fun h => absurd h htruthy

theorem settles_applyMark (underline : Bool) (body : List Char) (mark : Mark) :
    Settles .wrongType mark.IsLatex (applyMark ⟨true, true⟩ underline body mark) := by
  cases mark with
  | link href target className => exact (settles_url href).map _
  | _ => exact .pure trivial

theorem walks (style : Style) (underline : Bool) :
    Walks (applyMark style underline) (applyMarks style underline) (render style underline)
      (renderAll style underline) where
  unmarked _ := rfl
  marked body mark rest := by
    rw [applyMarks]
    cases applyMark style underline body mark <;> rfl
  text content marks := ⟨_, by rw [render]⟩
  branch container children := ⟨_, by rw [render]⟩
  nil := by rw [renderAll]
  cons child rest := by
    rw [renderAll]
    cases render style underline child <;> rfl

end Latex

/-! ### Writers -/

/-- With their default options the writers make a text of a document under a valid context exactly
if every mark in it can be shown. -/
theorem generate_settles_marks {value : Json} {context : Context} (node : Node)
    (hcontext : Context.ofValue value = .ok context) :
    Settles .noSuchMember (∀ mark ∈ node.marks, mark.IsHtml context.linkUnderline)
      (Writer.generate ⟨.html, .default .htmlWriter⟩ value node) ∧
    Settles .wrongType (∀ mark ∈ node.marks, mark.IsLatex)
      (Writer.generate ⟨.latex, .default .latexWriter⟩ value node) := by
  have hhtml := (Html.walks ⟨true, .str "#"⟩ context.linkUnderline).settles
    (Html.settles_applyMark "#" context.linkUnderline) node
  have hlatex := (Latex.walks ⟨true, true⟩ context.linkUnderline).settles
    (Latex.settles_applyMark context.linkUnderline) node
  simp only [Writer.generate, hcontext]
  exact ⟨hhtml.map String.ofList, hlatex.map String.ofList⟩

theorem generate_settles_marks_underlined :
    ∃ out, Writer.generate ⟨.html, .default .htmlWriter⟩
      (.obj [("typography", .obj [("links", .obj [("underline", .bool true)])])])
      (.text "x" [.link (.str "u") (.int 5) .null]) = .ok out := by
  have hcontext : Context.ofValue
      (.obj [("typography", .obj [("links", .obj [("underline", .bool true)])])]) = .ok ⟨true⟩ := rfl
  refine (generate_settles_marks _ hcontext).1.ok ?_
  simp [Node.marks, Node.leaves, Mark.IsHtml, Json.IsWritable, Json.truthy]

/-! ### Strict reading -/

namespace Editor

def numberedLinkValue : Json :=
  .obj [("type", .str "doc"), ("content", .arr [.obj [("type", .str "paragraph"),
    ("content", .arr [.obj [("type", .str "text"), ("text", .str "x"),
      ("marks", .arr [.obj [("type", .str "link"), ("attrs", .obj [("href", .int 5)])]])]])]])]

def numberedLinkSource : String := Json.write .line numberedLinkValue

def numberedLinkDoc : Node := Node.doc [.branch .paragraph [.text "x" [.link (.int 5) .null .null]]]

theorem readStrict_numberedLink : readStrict numberedLinkSource = .ok numberedLinkDoc := by
  have hline : Json.Layout.line.IsBlank := trivial
  have hdigits : Json.intDigits 5 ≤ Json.digitLimit := by decide
  have hexact : numberedLinkValue.Exact := by
    simp [numberedLinkValue, Json.Exact, Json.ExactItems, Json.ExactMembers, hdigits]
  have hread : Json.read numberedLinkSource = .ok numberedLinkValue :=
    Json.read_write hline hexact (by decide)
  exact readStrict_eq_ok_iff.2 ⟨numberedLinkValue, hread, rfl, rfl, by decide⟩

end Editor

theorem Reader.read_of_readStrict {source : String} {doc : Node}
    (h : Editor.readStrict source = .ok doc) :
    (Reader.mk .tree ⟨.treeReader, [("strict_mode", .bool true)]⟩).read source = .ok doc :=
  Reader.read_tree_eq_ok_iff.2 h

/-- Strict reading takes a link to a number, which neither writer can show. -/
theorem readStrict_unshown :
    (Reader.mk .tree ⟨.treeReader, [("strict_mode", .bool true)]⟩).read Editor.numberedLinkSource =
        .ok Editor.numberedLinkDoc ∧
      Writer.generate ⟨.html, .default .htmlWriter⟩ .null Editor.numberedLinkDoc =
        .error .noSuchMember ∧
      Writer.generate ⟨.latex, .default .latexWriter⟩ .null Editor.numberedLinkDoc =
        .error .wrongType :=
  ⟨Reader.read_of_readStrict Editor.readStrict_numberedLink, rfl, rfl⟩

end Vitae
