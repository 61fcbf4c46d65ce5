import Vitae.Context
import Vitae.Editor
import Vitae.Html
import Vitae.Latex
import Vitae.Markdown.Reader
import Vitae.Options

/-!
# Compiling fragments

Sources are Markdown or the editor's format; targets are HTML, LaTeX or the editor's format. A
reader or writer is made for a format with the options of its component; compiling a source is
reading it into a document and writing that. Markdown is cut into tokens by a library: `compileBy`
takes any tokenizer, `compile` goes by the one at hand here.
-/

namespace Vitae

/-! ### Formats -/

inductive SourceFormat where
  | markdown
  | tree
  deriving DecidableEq, Repr, Inhabited

inductive TargetFormat where
  | html
  | latex
  | tree
  deriving DecidableEq, Repr, Inhabited

namespace SourceFormat

def name : SourceFormat → String
  | .markdown => "markdown"
  | .tree => "tree"

def component : SourceFormat → Component
  | .markdown => .markdownReader
  | .tree => .treeReader

def names : List String := ["markdown", "tree"]

def ofName (name : String) : Except Failure SourceFormat :=
  if name = "markdown" then .ok .markdown
  else if name = "tree" then .ok .tree
  else .error (.format name names none)

theorem ofName_name (f : SourceFormat) : ofName f.name = .ok f := by
  cases f <;> rfl

end SourceFormat

namespace TargetFormat

def name : TargetFormat → String
  | .html => "html"
  | .latex => "latex"
  | .tree => "tree"

def component : TargetFormat → Component
  | .html => .htmlWriter
  | .latex => .latexWriter
  | .tree => .treeWriter

def names : List String := ["html", "latex", "tree"]

def ofName (name : String) : Except Failure TargetFormat :=
  if name = "html" then .ok .html
  else if name = "latex" then .ok .latex
  else if name = "tree" then .ok .tree
  else .error (.format name names none)

theorem ofName_name (f : TargetFormat) : ofName f.name = .ok f := by
  cases f <;> rfl

end TargetFormat

/-! ### Readers and writers -/

/-- The options for a component: its defaults if none are given; those of another component are
refused under the component's format name. -/
def optionsFor (component : Component) (name : String) : Option Options → Except Failure Options
  | none => .ok (Options.default component)
  | some o =>
    if o.component = component then .ok o
    else .error (.options name component.optionsTitle o.component.optionsTitle none)

structure Reader where
  format : SourceFormat
  options : Options
  deriving Repr

structure Writer where
  format : TargetFormat
  options : Options
  deriving Repr

def Reader.make (name : String) (options : Option Options) : Except Failure Reader := do
  let format ← SourceFormat.ofName name
  let options ← optionsFor format.component format.name options
  .ok ⟨format, options⟩

def Writer.make (name : String) (options : Option Options) : Except Failure Writer := do
  let format ← TargetFormat.ofName name
  let options ← optionsFor format.component format.name options
  .ok ⟨format, options⟩

def Failure.ofRefusal : Editor.Refusal → Failure
  | .json (.flaw what line column offset) =>
    .parsing ("Invalid editor JSON: " ++ (Json.ReadError.flaw what line column offset).message)
      (some "json_parsing") (some .json)
  | .json .tooDeep =>
    .parsing "Editor JSON is nested too deeply" (some "json_parsing") (some .nesting)
  | .json .tooManyDigits => .badValue none
  | .defect d => .validation d.message (some "tree") none
  | .violation v => v.failure
  | .tooDeep =>
    .parsing "Editor JSON tree is nested too deeply" (some "tree_building") (some .nesting)

/-- The document of a source, with a tokenizer for Markdown and what stands for half a surrogate
pair in the editor's format. -/
def Reader.readBy (tokens : String → List Markdown.Token) (r : Reader) (source : String)
    (half : Char := Json.standIn) : Except Failure Node :=
  match r.format with
  | .markdown =>
    .ok (Markdown.document ⟨r.options.get "link_target", r.options.get "link_class"⟩ (tokens source))
  | .tree =>
    match Editor.read (r.options.get "strict_mode").truthy source half with
    | .ok doc => .ok doc
    | .error e => .error (.ofRefusal e)

/-- Reading with the tokenizer that is at hand here. -/
def Reader.read (r : Reader) (source : String) : Except Failure Node :=
  r.readBy Markdown.tokens source

/-- The layout of an indentation; only a whole number of columns can be used. Columns are not bounded
here; from `2 ^ 63` on there is no text of so many blanks. -/
def layoutOf : Json → Except Failure Json.Layout
  | .null => .ok .line
  | .bool b => .ok (.indented (if b then [' '] else []))
  | .int n => .ok (.indented (List.replicate n.toNat ' '))
  | .str unit => .ok (.indented unit.toList)
  | _ => .error .wrongType

def htmlStyle (o : Options) : Html.Style :=
  ⟨(o.get "escape_html").truthy, o.get "default_href"⟩

def latexStyle (o : Options) : Latex.Style :=
  ⟨(o.get "escape_special").truthy, (o.get "escape_link_urls").truthy⟩

/-- The text of a document. The presentation of the surrounding document has no bearing on the
editor's format. -/
def Writer.write (w : Writer) (context : Context) (node : Node) : Except Failure String :=
  match w.format with
  | .html => (Html.render (htmlStyle w.options) context.linkUnderline node).map String.ofList
  | .latex => (Latex.render (latexStyle w.options) context.linkUnderline node).map String.ofList
  | .tree => do
    let layout ← layoutOf (w.options.get "indent")
    (Editor.write? layout node).elim (.error .wrongType) .ok

/-- The text of a document under a context given as a value, which the editor's format ignores. -/
def Writer.generate (w : Writer) (context : Json) (node : Node) : Except Failure String :=
  match w.format with
  | .tree => w.write {} node
  | _ =>
    match Context.ofValue context with
    | .ok context => w.write context node
    | .error e => .error e

/-- The text of an unchecked tree under a context given as a value. The editor's format shows what
the tree holds; the others need a document, but do not show first numbers. -/
def Writer.generateDraft (w : Writer) (context : Json) (draft : Draft) : Except Failure String :=
  match w.format with
  | .tree =>
    match Editor.encodeDraft draft with
    | none => .error .noSuchMember
    | some value => do
      let layout ← layoutOf (w.options.get "indent")
      (Json.write? layout value).elim (.error .wrongType) .ok
  | _ =>
    match Context.ofValue context with
    | .error e => .error e
    | .ok context =>
      match draft.renumber.toNode? with
      | none => .error .noSuchMember
      | some node => w.write context node

/-! ### Compiling -/

def parseBy (tokens : String → List Markdown.Token) (source format : String)
    (options : Option Options) (half : Char := Json.standIn) : Except Failure Node := do
  let reader ← Reader.make format options
  reader.readBy tokens source half

def parse (source format : String) (options : Option Options) : Except Failure Node :=
  parseBy Markdown.tokens source format options

def generate (node : Node) (format : String) (context : Json) (options : Option Options) :
    Except Failure String := do
  let writer ← Writer.make format options
  writer.generate context node

def compileBy (tokens : String → List Markdown.Token) (source sourceFormat targetFormat : String)
    (context : Json) (readerOptions writerOptions : Option Options)
    (half : Char := Json.standIn) : Except Failure String := do
  let node ← parseBy tokens source sourceFormat readerOptions half
  generate node targetFormat context writerOptions

def compile (source sourceFormat targetFormat : String) (context : Json)
    (readerOptions writerOptions : Option Options) : Except Failure String :=
  compileBy Markdown.tokens source sourceFormat targetFormat context readerOptions writerOptions

end Vitae
