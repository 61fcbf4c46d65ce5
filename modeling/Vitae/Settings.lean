import Vitae.Compile
import Vitae.Log

/-!
# Settings

A config has one section for each concern: the typography of the document around, and the options
of each reader and writer except those of the writer of the editor's format. Unknown sections and
options are ignored with a warning.
-/

namespace Vitae

structure Settings where
  context : Context := {}
  markdown : Options := .default .markdownReader
  tree : Options := .default .treeReader
  html : Options := .default .htmlWriter
  latex : Options := .default .latexWriter
  deriving Repr, Inhabited

namespace Settings

def sections : List String := ["typography", "html", "latex", "markdown", "tree"]

def unknownSections (members : List (String × Json)) : List String :=
  (members.map (·.1)).filter fun name => !sections.contains name

def unknownSection (name : String) : Log.Record :=
  ⟨.warning, "resumark.cli.config", s!"Ignoring unknown config section '{name}'", false⟩

def unknownOption (component : Component) (name : String) : Log.Record :=
  ⟨.warning, "resumark.options.base", Options.unknownWarning component name, false⟩

/-- The entries of a section: what is missing or counts as false has none. -/
def entriesOf (members : List (String × Json)) (name : String) :
    Except Failure (List (String × Json)) :=
  match Json.member? members name with
  | none => .ok []
  | some (.obj entries) => .ok entries
  | some v =>
    if v.truthy then
      .error (.validation s!"Config section '{name}' must be a table" (some name) none)
    else .ok []

def optionsFrom (members : List (String × Json)) (name : String) (component : Component) :
    Log.Noted Options := do
  let entries ← entriesOf members name
  Log.note ((Options.unknownKeys component entries).map (unknownOption component))
  Options.ofMapping component entries

/-- The presentation from its section; links are underlined also if a flag says so. -/
def contextFrom (members : List (String × Json)) (linkUnderline : Bool) :
    Except Failure Context := do
  let entries ← entriesOf members "typography"
  let context ← Context.ofMembers [("typography", .obj entries)]
  .ok (if linkUnderline then ⟨true⟩ else context)

def build (members : List (String × Json)) (linkUnderline : Bool) : Log.Noted Settings := do
  Log.note ((unknownSections members).map unknownSection)
  let context ← contextFrom members linkUnderline
  let markdown ← optionsFrom members "markdown" .markdownReader
  let tree ← optionsFrom members "tree" .treeReader
  let html ← optionsFrom members "html" .htmlWriter
  let latex ← optionsFrom members "latex" .latexWriter
  return { context, markdown, tree, html, latex }

def readerOptions (s : Settings) (format : String) : Option Options :=
  match SourceFormat.ofName format with
  | .ok .markdown => some s.markdown
  | .ok .tree => some s.tree
  | .error _ => none

/-- The options for the writer of a target format; those of the editor's format have an
indentation alone. -/
def writerOptions (s : Settings) (format : String) (indent : Option Int) : Option Options :=
  match TargetFormat.ofName format with
  | .ok .html => some s.html
  | .ok .latex => some s.latex
  | .ok .tree => some ⟨.treeWriter, [("indent", (indent.map Json.int).getD .null)]⟩
  | .error _ => none

end Settings

end Vitae
