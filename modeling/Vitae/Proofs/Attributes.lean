import Vitae.Proofs.Rendering
import Vitae.Proofs.Underlining

/-!
# Attributes that are not written

Which documents that lenient reading makes a writer fails on. Its escaping needs strings: a value of
another kind is refused if it is to be escaped, which it is only if it counts as true. Values that
count as false are written in no way, and as if they were not there. Without escaping nothing is
refused.
-/

namespace Vitae

/-! ### Values that no string stands for -/

/-- Counts as true and is no string. -/
def Json.IsForeign (value : Json) : Prop := value.truthy = true ∧ ∀ s, value ≠ .str s

theorem Json.not_isWritable_iff {value : Json} : ¬ value.IsWritable ↔ value.IsForeign := by
  simp [Json.IsWritable, Json.IsForeign]

namespace Mark

/-- Does the mark have an attribute that HTML shows under the context, but cannot escape? -/
def DefiesHtml (underline : Bool) : Mark → Prop
  | .link href target className =>
    href.IsForeign ∨ className.IsForeign ∨ (target.IsForeign ∧ underline = false)
  | _ => False

def DefiesLatex : Mark → Prop
  | .link href _ _ => href.IsForeign
  | _ => False

theorem isHtml_iff {underline : Bool} {mark : Mark} :
    mark.IsHtml underline ↔ ¬ mark.DefiesHtml underline := by
  cases mark with
  | link href target className =>
    simp only [IsHtml, DefiesHtml, ← Json.not_isWritable_iff]
    cases underline <;> grind
  | _ => simp [IsHtml, DefiesHtml]

theorem isLatex_iff {mark : Mark} : mark.IsLatex ↔ ¬ mark.DefiesLatex := by
  cases mark with
  | link href target className => simp [IsLatex, DefiesLatex, ← Json.not_isWritable_iff]
  | _ => simp [IsLatex, DefiesLatex]

end Mark

/-! ### Outcomes with and without escaping -/

theorem Settles.iff {α : Type} {failure : Failure} {p : Prop} {r : Except Failure α}
    (h : Settles failure (¬ p) r) : (r = .error failure ↔ p) ∧ ((∃ out, r = .ok out) ↔ ¬ p) := by
  by_cases hp : p
  · have hr := h.error fun hn => hn hp
    simp [hr, hp]
  · obtain ⟨out, hr⟩ := h.ok hp
    simp [hr, hp]

/-- What is settled for every mark, as far as it is escaped, is settled for a document. -/
theorem Settles.of_marks {α : Type} {failure : Failure} {escapes : Bool} {p : Mark → Prop}
    {node : Node} {r : Except Failure α}
    (h : Settles failure (∀ mark ∈ node.marks, escapes = true → ¬ p mark) r) :
    Settles failure (¬ (escapes = true ∧ ∃ mark ∈ node.marks, p mark)) r :=
  h.of_iff (by
    constructor
    · rintro hall ⟨hescapes, mark, hmark, hp⟩
      exact hall mark hmark hescapes hp
    · intro hnone mark hmark hescapes hp
      exact hnone ⟨hescapes, mark, hmark, hp⟩)

namespace Html

theorem attr_unescaped (d : Json) (name : String) (value : Json) :
    ∃ out, attr ⟨false, d⟩ name value = .ok out := by
  cases value <;> exact ⟨_, rfl⟩

theorem attr?_unescaped (d : Json) (name : String) (value : Json) :
    ∃ out, attr? ⟨false, d⟩ name value = .ok out := by
  rw [attr?]
  split
  · exact attr_unescaped d name value
  · exact ⟨[], rfl⟩

theorem applyMark_unescaped (d : Json) (underline : Bool) (body : List Char) (mark : Mark) :
    ∃ out, applyMark ⟨false, d⟩ underline body mark = .ok out := by
  cases mark with
  | link href target className =>
    obtain ⟨hrefText, hhref⟩ := attr_unescaped d "href" (if href.truthy then href else d)
    obtain ⟨targetText, htarget⟩ := attr?_unescaped d "target" target
    obtain ⟨classText, hclass⟩ := attr?_unescaped d "class" className
    rw [applyMark, anchor, hhref, htarget, hclass]
    cases underline <;> exact ⟨_, rfl⟩
  | _ => exact ⟨_, rfl⟩

theorem settles_applyMark_escapes (escapes : Bool) (d : String) (underline : Bool)
    (body : List Char) (mark : Mark) :
    Settles .noSuchMember (escapes = true → ¬ mark.DefiesHtml underline)
      (applyMark ⟨escapes, .str d⟩ underline body mark) := by
  cases escapes with
  | true => exact (settles_applyMark d underline body mark).of_iff (by simp [Mark.isHtml_iff])
  | false =>
    obtain ⟨out, hout⟩ := applyMark_unescaped (.str d) underline body mark
    rw [hout]
    exact .pure nofun

end Html

namespace Latex

theorem applyMark_unescaped (escapesText underline : Bool) (body : List Char) (mark : Mark) :
    ∃ out, applyMark ⟨escapesText, false⟩ underline body mark = .ok out := by
  cases mark with
  | link href target className =>
    have hurl : ∃ url, Style.url ⟨escapesText, false⟩ href = .ok url := by
      unfold Style.url
      split
      · cases href <;> exact ⟨_, rfl⟩
      · exact ⟨[], rfl⟩
    obtain ⟨url, hurl⟩ := hurl
    rw [applyMark, hurl]
    exact ⟨_, rfl⟩
  | _ => exact ⟨_, rfl⟩

theorem settles_applyMark_escapes (style : Style) (underline : Bool) (body : List Char)
    (mark : Mark) :
    Settles .wrongType (style.escapesUrls = true → ¬ mark.DefiesLatex)
      (applyMark style underline body mark) := by
  obtain ⟨escapesText, escapesUrls⟩ := style
  cases escapesUrls with
  | true =>
    -- Whether texts are escaped has no part in what is done with a mark.
    have htext : applyMark ⟨escapesText, true⟩ underline body mark =
        applyMark ⟨true, true⟩ underline body mark := by
      cases mark <;> rfl
    rw [htext]
    exact (settles_applyMark underline body mark).of_iff (by simp [Mark.isLatex_iff])
  | false =>
    obtain ⟨out, hout⟩ := applyMark_unescaped escapesText underline body mark
    rw [hout]
    exact .pure nofun

end Latex

/-! ### Values that count as false -/

/-- The value if it counts as true, and else null. -/
def Json.orNull (value : Json) : Json := if value.truthy then value else .null

theorem Json.orNull_of_truthy {value : Json} (h : value.truthy = true) : value.orNull = value := by
  rw [orNull, if_pos h]

theorem Json.truthy_orNull (value : Json) : value.orNull.truthy = value.truthy := by
  by_cases h : value.truthy = true
  · rw [orNull_of_truthy h]
  · rw [orNull, if_neg h, Bool.eq_false_iff.2 h]
    rfl

/-- The mark without those attributes that count as false. -/
def Mark.withoutFalse : Mark → Mark
  | .link href target className => .link href.orNull target.orNull className.orNull
  | mark => mark

/-- What marks are changed to does not matter if each is applied as before. -/
theorem Walks.applyAll_map {apply : List Char → Mark → Except Failure (List Char)}
    {applyAll : List Char → List Mark → Except Failure (List Char)}
    {render : Node → Except Failure (List Char)}
    {renderAll : List Node → Except Failure (List Char)} (h : Walks apply applyAll render renderAll)
    {f : Mark → Mark} (hf : ∀ body mark, apply body (f mark) = apply body mark) (marks : List Mark)
    (body : List Char) : applyAll body (marks.map f) = applyAll body marks := by
  induction marks generalizing body with
  | nil => rfl
  | cons mark rest ih =>
    rw [List.map_cons, h.marked, h.marked, hf]
    simp only [ih]

namespace Html

theorem attr?_orNull (style : Style) (name : String) (value : Json) :
    attr? style name value.orNull = attr? style name value := by
  rw [attr?, attr?, Json.truthy_orNull]
  split
  · rw [Json.orNull_of_truthy ‹_›]
  · rfl

theorem applyMark_withoutFalse (style : Style) (underline : Bool) (body : List Char) (mark : Mark) :
    applyMark style underline body mark.withoutFalse = applyMark style underline body mark := by
  cases mark with
  | link href target className =>
    have hhref : (if href.orNull.truthy then href.orNull else style.defaultHref) =
        (if href.truthy then href else style.defaultHref) := by
      rw [Json.truthy_orNull]
      split
      · exact Json.orNull_of_truthy ‹_›
      · rfl
    simp only [applyMark, Mark.withoutFalse, anchor, hhref, attr?_orNull]
  | _ => rfl

theorem mimics_withoutFalse (style : Style) (underline : Bool) :
    Mimics (·.map Mark.withoutFalse) (render style underline) (render style underline)
      (renderAll style underline) (renderAll style underline) where
  text content marks := by
    rw [render, render, (walks style underline).applyAll_map (applyMark_withoutFalse style underline)]
  branch container children others _ hall := by
    rw [render, render, hall]
  nil := rfl
  cons child rest other others hchild hrest := by
    rw [renderAll, renderAll, hchild, hrest]

end Html

namespace Latex

theorem url_orNull (style : Style) (href : Json) : style.url href.orNull = style.url href := by
  by_cases h : href.truthy = true
  · rw [Json.orNull_of_truthy h]
  · unfold Style.url
    rw [Json.truthy_orNull, if_neg h, if_neg h]

theorem applyMark_withoutFalse (style : Style) (underline : Bool) (body : List Char) (mark : Mark) :
    applyMark style underline body mark.withoutFalse = applyMark style underline body mark := by
  cases mark with
  | link href target className => simp only [applyMark, Mark.withoutFalse, url_orNull]
  | _ => rfl

theorem mimics_withoutFalse (style : Style) (underline : Bool) :
    Mimics (·.map Mark.withoutFalse) (render style underline) (render style underline)
      (renderAll style underline) (renderAll style underline) where
  text content marks := by
    rw [render, render, (walks style underline).applyAll_map (applyMark_withoutFalse style underline)]
  branch container children others hempty hall := by
    rw [render, render, hall, hempty]
  nil := rfl
  cons child rest other others hchild hrest := by
    rw [renderAll, renderAll, hchild, hrest]

end Latex

/-! ### Writers -/

/-- A document that lenient reading makes is refused in HTML exactly if texts are escaped and a link
has a destination or class that counts as true and is no string, or such a target where links are
not underlined; in LaTeX exactly if destinations are escaped and a link has such a destination.
Every other one is written. Attributes that count as false are as good as none. -/
theorem generate_refuses (value : Json) (html latex : Options) {contextValue : Json}
    {context : Context} {d : String} (hcontext : Context.ofValue contextValue = .ok context)
    (hdefault : html.get "default_href" = .str d) :
    ((Writer.generate ⟨.html, html⟩ contextValue (Editor.decodeDoc value) = .error .noSuchMember ↔
        (html.get "escape_html").truthy = true ∧
          ∃ mark ∈ (Editor.decodeDoc value).marks, mark.DefiesHtml context.linkUnderline) ∧
      ((∃ out, Writer.generate ⟨.html, html⟩ contextValue (Editor.decodeDoc value) = .ok out) ↔
        ¬ ((html.get "escape_html").truthy = true ∧
          ∃ mark ∈ (Editor.decodeDoc value).marks, mark.DefiesHtml context.linkUnderline))) ∧
    ((Writer.generate ⟨.latex, latex⟩ contextValue (Editor.decodeDoc value) = .error .wrongType ↔
        (latex.get "escape_link_urls").truthy = true ∧
          ∃ mark ∈ (Editor.decodeDoc value).marks, mark.DefiesLatex) ∧
      ((∃ out, Writer.generate ⟨.latex, latex⟩ contextValue (Editor.decodeDoc value) = .ok out) ↔
        ¬ ((latex.get "escape_link_urls").truthy = true ∧
          ∃ mark ∈ (Editor.decodeDoc value).marks, mark.DefiesLatex))) ∧
    Writer.generate ⟨.html, html⟩ contextValue
        ((Editor.decodeDoc value).mapMarks (·.map Mark.withoutFalse)) =
      Writer.generate ⟨.html, html⟩ contextValue (Editor.decodeDoc value) ∧
    Writer.generate ⟨.latex, latex⟩ contextValue
        ((Editor.decodeDoc value).mapMarks (·.map Mark.withoutFalse)) =
      Writer.generate ⟨.latex, latex⟩ contextValue (Editor.decodeDoc value) := by
  have hhtml := (Html.walks (htmlStyle html) context.linkUnderline).settles
    (fun body mark => hdefault ▸ Html.settles_applyMark_escapes (html.get "escape_html").truthy d
      context.linkUnderline body mark) (Editor.decodeDoc value)
  have hlatex := (Latex.walks (latexStyle latex) context.linkUnderline).settles
    (Latex.settles_applyMark_escapes (latexStyle latex) context.linkUnderline)
    (Editor.decodeDoc value)
  simp only [Writer.generate_eq_write _ hcontext, Writer.write]
  refine ⟨(hhtml.of_marks.map String.ofList).iff, (hlatex.of_marks.map String.ofList).iff, ?_, ?_⟩
  · rw [← (Html.mimics_withoutFalse _ _).render_eq]
  · rw [← (Latex.mimics_withoutFalse _ _).render_eq]

/-- A link with a number for a target, and with a destination and a class that count as false. -/
def targetedValue : Json :=
  .obj [("content", .arr [.obj [("type", .str "text"), ("text", .str "x"),
    ("marks", .arr [.obj [("type", .str "link"),
      ("attrs", .obj [("href", .int 0), ("target", .int 5), ("class", .arr [])])]])]])]

theorem marks_targetedValue :
    (Editor.decodeDoc targetedValue).marks = [.link (.int 0) (.int 5) (.arr [])] := rfl

theorem generate_refuses_target :
    Writer.generate ⟨.html, .default .htmlWriter⟩ .null (Editor.decodeDoc targetedValue) =
        .error .noSuchMember ∧
      (∃ out, Writer.generate ⟨.html, .default .htmlWriter⟩
        (.obj [("typography", .obj [("links", .obj [("underline", .bool true)])])])
        (Editor.decodeDoc targetedValue) = .ok out) ∧
      (∃ out, Writer.generate ⟨.html, ⟨.htmlWriter, [("escape_html", .int 0), ("default_href", .str "")]⟩⟩
        .null (Editor.decodeDoc targetedValue) = .ok out) ∧
      ∃ out, Writer.generate ⟨.latex, .default .latexWriter⟩ .null
        (Editor.decodeDoc targetedValue) = .ok out := by
  have hplain : Context.ofValue .null = .ok ⟨false⟩ := rfl
  have hunderlining : Context.ofValue
      (.obj [("typography", .obj [("links", .obj [("underline", .bool true)])])]) = .ok ⟨true⟩ := rfl
  have hdefault : (Options.default .htmlWriter).get "default_href" = .str "#" := rfl
  have hescaped := generate_refuses targetedValue (.default .htmlWriter) (.default .latexWriter)
    hplain hdefault
  have hunderlined := generate_refuses targetedValue (.default .htmlWriter) (.default .latexWriter)
    hunderlining hdefault
  have hunescaped := generate_refuses targetedValue
    ⟨.htmlWriter, [("escape_html", .int 0), ("default_href", .str "")]⟩ (.default .latexWriter)
    hplain (d := "") rfl
  rw [marks_targetedValue] at hescaped hunderlined hunescaped
  refine ⟨hescaped.1.1.2 ⟨rfl, ?_⟩, hunderlined.1.2.2 ?_, hunescaped.1.2.2 ?_, hescaped.2.1.2.2 ?_⟩
  · simp [Mark.DefiesHtml, Json.IsForeign, Json.truthy]
  · simp [Mark.DefiesHtml, Json.IsForeign, Json.truthy]
  · rintro ⟨h, -⟩
    cases h
  · simp [Mark.DefiesLatex, Json.IsForeign, Json.truthy]

end Vitae
