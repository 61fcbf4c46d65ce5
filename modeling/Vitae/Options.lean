import Vitae.Json.Display
import Vitae.Failure

/-!
# Options

The options of each reader and writer: a record with one value for each of the component's fields.
Field values are not checked, except that an indentation is a number not below zero. Options are
made from a mapping, in which hyphens may stand for underscores and unknown names are ignored with
a warning, and changed by updates, in which every name has to be a field.
-/

namespace Vitae

inductive Component where
  | markdownReader
  | treeReader
  | htmlWriter
  | latexWriter
  | treeWriter
  | anyReader
  | anyWriter
  deriving DecidableEq, Repr, Inhabited

namespace Component

def optionsTitle : Component → String
  | .markdownReader => "MarkdownParserOptions"
  | .treeReader => "TreeParserOptions"
  | .htmlWriter => "HtmlRendererOptions"
  | .latexWriter => "LatexRendererOptions"
  | .treeWriter => "TreeRendererOptions"
  | .anyReader => "BaseParserOptions"
  | .anyWriter => "BaseRendererOptions"

def defaults : Component → List (String × Json)
  | .markdownReader => [("link_target", .null), ("link_class", .null)]
  | .treeReader => [("strict_mode", .bool false)]
  | .htmlWriter => [("escape_html", .bool true), ("default_href", .str "#")]
  | .latexWriter => [("escape_special", .bool true), ("escape_link_urls", .bool true)]
  | .treeWriter => [("indent", .null)]
  | .anyReader => []
  | .anyWriter => []

def hasField (component : Component) (name : String) : Bool :=
  component.defaults.any (·.1 == name)

end Component

structure Options where
  component : Component
  fields : List (String × Json)
  deriving Repr, Inhabited

namespace Options

def default (component : Component) : Options := ⟨component, component.defaults⟩

def get (o : Options) (name : String) : Json := (Json.member? o.fields name).getD .null

def assign (fields : List (String × Json)) (name : String) (value : Json) : List (String × Json) :=
  fields.map fun f => if f.1 == name then (f.1, value) else f

def assignAll (fields changes : List (String × Json)) : List (String × Json) :=
  changes.foldl (fun fields c => assign fields c.1 c.2) fields

/-- What is wrong with an indentation: it is null or a number not below zero. -/
def indentFailure : Json → Option Failure
  | .null => none
  | value =>
    match value.number? with
    | none => some .wrongType
    | some n =>
      let negative := match n with
        | .int n => decide (n < 0)
        | .float x => x.isNegative
      if negative then
        some (.badValue (some s!"indent must be non-negative, got {String.ofList value.plain}"))
      else none

def validated (o : Options) : Except Failure Options :=
  match o.component with
  | .treeWriter =>
    match indentFailure (o.get "indent") with
    | some e => .error e
    | none => .ok o
  | _ => .ok o

def fieldName (key : String) : String :=
  String.ofList (key.toList.map fun c => if c = '-' then '_' else c)

def knownEntries (component : Component) (entries : List (String × Json)) : List (String × Json) :=
  (entries.map fun e => (fieldName e.1, e.2)).filter fun e => component.hasField e.1

def unknownKeys (component : Component) (entries : List (String × Json)) : List String :=
  (entries.map (·.1)).filter fun key => !component.hasField (fieldName key)

def unknownWarning (component : Component) (key : String) : String :=
  s!"Ignoring unknown option '{key}' for {component.optionsTitle}"

/-- The options that a mapping gives: of two entries for one field the later counts. -/
def ofMapping (component : Component) (entries : List (String × Json)) : Except Failure Options :=
  validated ⟨component, assignAll component.defaults (knownEntries component entries)⟩

def update (o : Options) (changes : List (String × Json)) : Except Failure Options :=
  if changes.all fun c => o.component.hasField c.1 then
    validated ⟨o.component, assignAll o.fields changes⟩
  else .error .wrongType

def same (a b : Options) : Bool :=
  decide (a.component = b.component) &&
    Json.sameItems (a.fields.map (·.2)) (b.fields.map (·.2))

end Options

end Vitae
