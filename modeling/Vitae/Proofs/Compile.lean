import Vitae.Proofs.Markdown.Tokenizer

/-!
# Compiling through the editor's format

What a Markdown source compiles to does not depend on whether it was turned into the editor's format
before. `compileWith` is compiling with some tokenizer for Markdown; with the standard one it is
`compile`.
-/

namespace Vitae

open Markdown (Tokenizer)

/-! ### Some tokenizer -/

def parseWith (t : Tokenizer) (source format : String) (options : Option Options) :
    Except Failure Node :=
  parseBy t.tokens source format options

def compileWith (t : Tokenizer) (source sourceFormat targetFormat : String) (context : Json)
    (readerOptions writerOptions : Option Options) : Except Failure String :=
  compileBy t.tokens source sourceFormat targetFormat context readerOptions writerOptions

/-- With the standard tokenizer nothing is special. -/
theorem compileWith_standard (source sourceFormat targetFormat : String) (context : Json)
    (readerOptions writerOptions : Option Options) :
    compileWith .standard source sourceFormat targetFormat context readerOptions writerOptions =
      compile source sourceFormat targetFormat context readerOptions writerOptions := rfl

/-! ### The steps -/

theorem optionsFor_some {component : Component} {o : Options} (name : String)
    (h : o.component = component) : optionsFor component name (some o) = .ok o := by
  simp only [optionsFor, h, if_true]

theorem Reader.make_name (format : SourceFormat) {o : Options} (h : o.component = format.component) :
    Reader.make format.name (some o) = .ok ⟨format, o⟩ := by
  simp only [Reader.make, SourceFormat.ofName_name, bind, Except.bind, optionsFor_some _ h]

theorem Writer.make_name (format : TargetFormat) {o : Options} (h : o.component = format.component) :
    Writer.make format.name (some o) = .ok ⟨format, o⟩ := by
  simp only [Writer.make, TargetFormat.ofName_name, bind, Except.bind, optionsFor_some _ h]

def Options.links (o : Options) : Markdown.LinkAttributes :=
  ⟨o.get "link_target", o.get "link_class"⟩

theorem parseWith_markdown (t : Tokenizer) (source : String) {ro : Options}
    (hro : ro.component = .markdownReader) :
    parseWith t source "markdown" (some ro) = .ok (t.read ro.links source) := by
  have hmake := Reader.make_name .markdown hro
  simp only [SourceFormat.name] at hmake
  simp only [parseWith, parseBy, hmake, bind, Except.bind]
  rfl

theorem parse_tree {so : Options} {text : String} {doc : Node} (hso : so.component = .treeReader)
    (h : Editor.read (so.get "strict_mode").truthy text = .ok doc) :
    parse text "tree" (some so) = .ok doc := by
  have hmake := Reader.make_name .tree hso
  simp only [SourceFormat.name] at hmake
  simp only [parse, parseBy, hmake, bind, Except.bind]
  exact read_tree h

theorem generate_tree_name {wo : Options} {layout : Json.Layout} (hwo : wo.component = .treeWriter)
    (h : layoutOf (wo.get "indent") = .ok layout) (context : Json) {node : Node}
    (hnode : node.Storable) :
    generate node "tree" context (some wo) = .ok (Editor.write layout node) := by
  have hmake := Writer.make_name .tree hwo
  simp only [TargetFormat.name] at hmake
  simp only [generate, hmake, bind, Except.bind]
  exact generate_tree h context hnode

/-! ### The detour -/

/-- A Markdown document of not too many levels breaks no structural rule. Its text in the editor's
format is read back as it is, strictly or not, so what this text compiles to is what the source
compiles to. -/
theorem compileWith_through_tree (t : Tokenizer) (source target : String) (ro wo so : Options)
    (context context' : Json) (options : Option Options) (hro : ro.component = .markdownReader)
    (hlinks : ro.links.ArePlain) (hwo : wo.component = .treeWriter) (hindent : wo.HasColumns)
    (hso : so.component = .treeReader)
    (hlevels : (t.read ro.links source).levels ≤ Editor.levelLimit) :
    ∃ doc text, parseWith t source "markdown" (some ro) = .ok doc ∧
      Draft.check Editor.levelLimit (Draft.ofNode doc) = .ok () ∧
      compileWith t source "markdown" "tree" context' (some ro) (some wo) = .ok text ∧
      parse text "tree" (some so) = .ok doc ∧
      compile text "tree" target context (some so) options =
        compileWith t source "markdown" target context (some ro) options := by
  obtain ⟨hvalid, hstorable⟩ := Markdown.conforms_document hlinks (t.allFit source)
  obtain ⟨layout, hlayout, hblank⟩ := hindent.layout
  have hdepth := Editor.depth_encode_le_depthLimit hstorable hlevels
  have hparse := parseWith_markdown t source hro
  have hread : parse (Editor.write layout (t.read ro.links source)) "tree" (some so) =
      .ok (t.read ro.links source) := by
    apply parse_tree hso
    cases hstrict : (so.get "strict_mode").truthy with
    | false => exact Editor.readLenient_write hblank hstorable hdepth
    | true => exact Editor.readStrict_write hblank hstorable hdepth hvalid hlevels
  refine ⟨_, _, hparse, ?_, ?_, hread, ?_⟩
  · exact (Draft.check_eq_ok_iff (by rw [Draft.levels_ofNode]; exact hlevels)).2 hvalid
  · rw [compileWith, compileBy, ← parseWith, hparse]
    exact generate_tree_name hwo hlayout context' hstorable
  · rw [compile, compileBy, ← parse, hread, compileWith, compileBy, ← parseWith, hparse]

/-- A nested list with emphasis, a reference and a link, once through the editor's format. -/
theorem compile_through_tree_nested :
    (Tokenizer.standard.read (Options.default .markdownReader).links
        "3. *a* &amp; [b](c)\n   - x").levels ≤ Editor.levelLimit ∧
      ∃ text, compile "3. *a* &amp; [b](c)\n   - x" "markdown" "tree" .null
          (some (Options.default .markdownReader)) (some ⟨.treeWriter, [("indent", .int 2)]⟩) =
            .ok text ∧
        compile text "tree" "html" .null (some ⟨.treeReader, [("strict_mode", .bool true)]⟩) none =
          compile "3. *a* &amp; [b](c)\n   - x" "markdown" "html" .null
            (some (Options.default .markdownReader)) none := by
  have hlevels : (Tokenizer.standard.read (Options.default .markdownReader).links
      "3. *a* &amp; [b](c)\n   - x").levels ≤ Editor.levelLimit := by decide +kernel
  obtain ⟨_, text, _, _, htext, _, hcompile⟩ := compileWith_through_tree .standard
    "3. *a* &amp; [b](c)\n   - x" "html" (Options.default .markdownReader)
    ⟨.treeWriter, [("indent", .int 2)]⟩ ⟨.treeReader, [("strict_mode", .bool true)]⟩ .null .null none
    rfl ⟨Or.inl rfl, Or.inl rfl⟩ rfl (Or.inr ⟨2, rfl⟩) rfl hlevels
  rw [compileWith_standard] at htext hcompile
  exact ⟨hlevels, text, htext, hcompile⟩

end Vitae
