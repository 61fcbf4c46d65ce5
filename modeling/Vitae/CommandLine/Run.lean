import Vitae.CommandLine.Arguments
import Vitae.Config.Load
import Vitae.Config.Yaml.Reader
import Vitae.Destination
import Vitae.Settings

/-!
# Runs of the command line

A run goes through stages: the arguments, the log, the config, the settings, the source, compiling
and the output. The first stage that fails decides the exit code, and nothing is put out after it.
What a run notes goes to the error stream and, if there is a log file, to the end of that file.

Markdown and YAML are read by libraries, which a run is given.
-/

namespace Vitae.CommandLine

/-- What is read elsewhere: the tokens of a Markdown source, and the value of a YAML document if the
text is one. -/
structure Libraries where
  tokens : String → List Markdown.Token
  yaml : String → Option Json

/-- The readers that are at hand here, of which the one of YAML is for simple documents. -/
def Libraries.simple : Libraries := ⟨Markdown.tokens, Config.Yaml.read⟩

/-- What a run finds: its arguments, the environment, the standard input, the files, and the time
that traced records bear. -/
structure Surroundings where
  words : List String := []
  environment : List (String × String) := []
  input : ByteArray := ByteArray.empty
  files : Files := {}
  time : String := ""
  deriving Inhabited

structure Outcome where
  exitCode : Nat
  output : String := ""
  errors : String := ""
  files : Files := {}
  deriving Inhabited

/-! ### The log of a run -/

/-- A run at work: the files, the text of the error stream, where the log file lies, and which
records are shown and how. -/
structure Desk where
  files : Files
  errors : String := ""
  logPlace : Option Place := none
  threshold : Int
  style : Log.Style
  deriving Inhabited

def Desk.write (d : Desk) (r : Log.Record) : Desk :=
  if r.isShown d.threshold then
    let text := r.text d.style
    { d with
      errors := d.errors ++ text
      files := match d.logPlace with
        | some place => d.files.append place text
        | none => d.files }
  else d

def Desk.writeAll (d : Desk) (records : List Log.Record) : Desk := records.foldl Desk.write d

/-- A stage of a run: what happens at the desk remains when the stage fails. -/
abbrev Stage := ExceptT Failure (StateM Desk)

def note (level : Log.Level) (source message : String) : Stage Unit :=
  modify (·.write ⟨level, source, message, false⟩)

def ofNoted {α : Type} (x : Log.Noted α) : Stage α := do
  modify (·.writeAll x.outcome.2)
  x.outcome.1

def Desk.openLog (d : Desk) (name : String) : Desk :=
  let path := d.files.absolute (Path.ofString name)
  match d.files.locateWritable path with
  | .ok place =>
    { d with files := d.files.append place "", logPlace := some place }.write
      ⟨.debug, "resumark", s!"Logging to file: {name}", false⟩
  | .error e =>
    d.write ⟨.warning, "resumark",
      s!"Could not open log file {name}: {e.message path.text}", false⟩

def Desk.ofArguments (s : Surroundings) (a : Arguments) (threshold : Int) : Desk :=
  let d : Desk :=
    { files := s.files, threshold, style := ⟨if a.trace then some s.time else none⟩ }
  match a.logFile with
  | some name => if name = "" then d else d.openLog name
  | none => d

/-! ### Stages -/

def checkIndent (a : Arguments) : Stage Unit :=
  match a.indent with
  | some n =>
    if n < 0 then throw (.validation "--indent must be non-negative" (some "indent") none)
    else pure ()
  | none => pure ()

def loadConfig (l : Libraries) (a : Arguments) (half : Char) :
    Stage (List (String × Json)) := do
  match a.config with
  | none => pure []
  | some name =>
    if name = "" then pure []
    else
      let path := Path.ofString name
      let members ← Config.load l.yaml (← get).files path half
      note .debug "resumark.cli.config" s!"Loaded config from {path.text}"
      pure members

def readSource (s : Surroundings) (a : Arguments) : Stage String := do
  let content ← match a.input with
    | none => pure s.input
    | some name =>
      if name = "-" then pure s.input
      else
        let path := Path.ofString name
        match (← get).files.read path with
        | .ok content => pure content
        | .error e => throw (e.failure path.text)
  Config.lineTextOf content

def readNotes (format source : String) (doc : Node) : List Log.Record :=
  let count := doc.children.length
  match SourceFormat.ofName format with
  | .ok .markdown =>
    [⟨.debug, "resumark.parsers.markdown", s!"Parsed Markdown into {count} block node(s)", false⟩]
  | .ok .tree =>
    let root := match Json.read source with
      | .ok (.obj _) => []
      | .ok other =>
        [⟨.debug, "resumark.ast.serialization",
          s!"Editor JSON root is {other.typeName}, returning empty document", false⟩]
      | .error _ => []
    root ++ [⟨.debug, "resumark.parsers.tree",
      s!"Decoded editor JSON into {count} block node(s)", false⟩]
  | .error _ => []

def writeNotes (format text : String) (doc : Node) : List Log.Record :=
  let count := text.length
  match TargetFormat.ofName format with
  | .ok .html =>
    [⟨.debug, "resumark.renderers.html",
      s!"Generated {count} characters of HTML from {doc.title}", false⟩]
  | .ok .latex =>
    [⟨.debug, "resumark.renderers.latex",
      s!"Generated {count} characters of LaTeX from {doc.title}", false⟩]
  | .ok .tree =>
    [⟨.debug, "resumark.renderers.tree",
      s!"Serialized {doc.title} to {count} characters of editor JSON", false⟩]
  | .error _ => []

def compileSource (l : Libraries) (a : Arguments) (half : Char) (settings : Settings)
    (source : String) : Stage String := do
  note .debug "resumark.api" s!"Compiling {a.source} to {a.target}"
  let doc ← parseBy l.tokens source a.source (settings.readerOptions a.source) half
  modify (·.writeAll (readNotes a.source source doc))
  let writer ← Writer.make a.target (settings.writerOptions a.target a.indent)
  let text ← writer.write settings.context doc
  modify (·.writeAll (writeNotes a.target text doc))
  pure text

/-- The text in the form of a command's argument, if that is asked for and it is LaTeX. -/
def finish (a : Arguments) (text : String) : String :=
  if a.cventry && a.target = "latex" then String.ofList (Latex.argument text.toList) else text

/-- What is printed of a text: a line end follows unless it is empty or has one. -/
def printed (text : String) : String :=
  if text.isEmpty || text.endsWith "\n" then text else text ++ "\n"

/-- Puts a text into the file that is named for it; without one, it is what is printed. A text with
half a surrogate pair in it is not encoded: nothing is printed, and its file is left empty. -/
def putOut (a : Arguments) (whole : Bool) (text : String) : Stage String := do
  let path? := a.out.bind fun name => if name = "" then none else some (Path.ofString name)
  match path? with
  | none => if whole then pure (printed text) else throw .badText
  | some path =>
    let sink ← (Destination.file path).send (if whole then text else "") ⟨(← get).files, ""⟩
    modify fun d => { d with files := sink.files }
    if whole then
      note .debug "resumark.renderers.base" s!"Wrote {text.length} characters to {path.text}"
      pure ""
    else throw .badText

/-- The stages before the output; `half` stands for half a surrogate pair. -/
def drafting (l : Libraries) (s : Surroundings) (a : Arguments) (half : Char) : Stage String := do
  checkIndent a
  let config ← loadConfig l a half
  let settings ← ofNoted (Settings.build config a.linkUnderline)
  let source ← readSource s a
  compileSource l a half settings source

/-- Is the text free of halves of surrogate pairs? It is if nothing in it depends on what stands for
them. -/
def isWhole (l : Libraries) (s : Surroundings) (a : Arguments) (threshold : Int) (text : String) :
    Bool :=
  let other := (drafting l s a (Char.ofNat 0xFFFE)).run.run (Desk.ofArguments s a threshold)
  match other.1 with
  | .ok otherText => otherText == text
  | .error _ => false

def stages (l : Libraries) (s : Surroundings) (a : Arguments) (threshold : Int) :
    Stage String := do
  let text ← drafting l s a Json.standIn
  putOut a (isWhole l s a threshold text) (finish a text)

/-! ### Runs -/

/-- Are the details of a failure withheld? They are those of a reader's own wording. -/
def isWithheld : Failure → Bool
  | .validation _ _ (some .toml) => true
  | .validation _ _ (some .yaml) => true
  | f => !f.isForeseen

def failureRecord (f : Failure) : Log.Record :=
  ⟨.error, "resumark.cli",
    if f.isForeseen then f.message.getD "" else "Unexpected error", isWithheld f⟩

/-- A run of given arguments. The log is set up outside of what is reported as a failure: where the
level sets no threshold the run breaks off with a traceback. -/
def runArguments (l : Libraries) (s : Surroundings) (a : Arguments) : Outcome :=
  match Log.thresholdOf (Log.levelOf a.logLevel) with
  | .error _ => ⟨1, "", "Traceback (most recent call last)", s.files⟩
  | .ok threshold =>
    match (stages l s a threshold).run.run (Desk.ofArguments s a threshold) with
    | (.ok output, d) => ⟨0, output, d.errors, d.files⟩
    | (.error f, d) =>
      let d := d.write (failureRecord f)
      ⟨f.exitCode, "", d.errors, d.files⟩

def versionText : String := "resumark 1.0.0\n"

def helpText : String :=
  "usage: resumark [INPUT] [OPTION]...\n\n" ++
  "Compile resume summary text (Markdown or editor JSON) to HTML, LaTeX or editor JSON.\n\n" ++
  String.join (Switch.all.map fun s =>
    "  " ++ ", ".intercalate s.names ++ (if s.takesValue then " VALUE" else "") ++ "\n")

def run (l : Libraries) (s : Surroundings) : Outcome :=
  match parseArguments s.environment s.words with
  | .ok a => runArguments l s a
  | .error (.error e) => ⟨2, "", s!"resumark: error: {e.message}\n", s.files⟩
  | .error .help => ⟨0, helpText, "", s.files⟩
  | .error .version => ⟨0, versionText, "", s.files⟩

end Vitae.CommandLine
