import Vitae.Config.Toml.Reader
import Vitae.Files
import Vitae.Text.Case
import Vitae.Text.Lines

/-!
# Config files

A config file is a JSON, TOML or YAML document whose root is a table. The ending of its name says
which, in upper or lower case. YAML is read by a library, of which is known that it gives a value or
says that a text is no document; keys that are no strings stand in this value by their texts.
-/

namespace Vitae.Config

inductive Format where
  | json
  | toml
  | yaml
  deriving DecidableEq, Repr, Inhabited

def Format.ofSuffix? (suffix : String) : Option Format :=
  if suffix = ".toml" then some .toml
  else if suffix = ".yaml" ∨ suffix = ".yml" then some .yaml
  else if suffix = ".json" then some .json
  else none

/-- The failure of a config file: it concerns the parameter of that name. -/
def failure (message : String) (cause : Option Cause) : Failure :=
  .validation message (some "config") cause

def textOf (content : ByteArray) : Except Failure String :=
  match String.fromUTF8? content with
  | some text => .ok text
  | none => .error .badText

/-- The text of a file in UTF-8, in which every line ends with a line feed. -/
def lineTextOf (content : ByteArray) : Except Failure String :=
  (textOf content).map fun text => String.ofList (Text.normalizeBreaks text.toList)

def parseJson (path text : String) (half : Char) : Except Failure Json :=
  match Json.read text half with
  | .ok value => .ok value
  | .error .tooDeep => .error .tooDeep
  | .error .tooManyDigits => .error (.badValue none)
  | .error e => .error (failure s!"Invalid config file {path}: {e.message}" (some .json))

def parseToml (path text : String) : Except Failure Json :=
  match Toml.read text with
  | some members => .ok (.obj members)
  | none => .error (failure s!"Invalid config file {path}" (some .toml))

/-- The value of a YAML document; one that counts as false is an empty table. -/
def parseYaml (yaml : String → Option Json) (path text : String) : Except Failure Json :=
  match yaml text with
  | some value => .ok (if value.truthy then value else .obj [])
  | none => .error (failure s!"Invalid config file {path}" (some .yaml))

/-- The value of a document; `half` stands for half a surrogate pair in JSON. -/
def parse (yaml : String → Option Json) (format : Format) (path : String) (content : ByteArray)
    (half : Char) : Except Failure Json :=
  match format with
  | .json => do parseJson path (← lineTextOf content) half
  | .toml => do parseToml path (← textOf content)
  | .yaml => do parseYaml yaml path (← lineTextOf content)

def rootMembers : Json → Except Failure (List (String × Json))
  | .obj members => .ok members
  | other =>
    .error (failure s!"Config file must contain a table at root level, got {other.typeName}" none)

def formatOf? (path : Path) : Option Format :=
  Format.ofSuffix? (String.ofList (Text.lower path.suffix.toList))

/-- The members of the config at a path. The ending of the name is looked at before the file is
opened. -/
def load (yaml : String → Option Json) (files : Files) (path : Path)
    (half : Char := Json.standIn) : Except Failure (List (String × Json)) :=
  match files.isFile path with
  | .error e => .error (e.failure path.text)
  | .ok false => .error (.system .missing s!"Configuration file does not exist: {path.text}")
  | .ok true =>
    match formatOf? path with
    | none =>
      let suffix := String.ofList (Text.lower path.suffix.toList)
      .error (failure s!"Unsupported config file format: {suffix}. Use .json, .toml, or .yaml" none)
    | some format =>
      match files.read path with
      | .error e => .error (e.failure path.text)
      | .ok content => do
        let value ← parse yaml format path.text content half
        rootMembers value

end Vitae.Config
