import Vitae.Log
import Vitae.Text.Integer
import Vitae.Text.Quoted

/-!
# Command-line arguments

The words of a command line are told apart first: names of options, with or without a value in the
same word, and plain words. A long name may be cut short as long as one option alone begins that
way. Then they are taken from left to right: an option that needs a value takes it from its own
word or from the plain word behind it, the first other plain word is the input, and what is left
over is refused at the end. The letter of help may have letters behind it in its word; help is given
only once the last of them has the value that it needs.
-/

namespace Vitae.CommandLine

/-! ### Options -/

inductive Switch where
  | help
  | source
  | target
  | out
  | linkUnderline
  | cventry
  | indent
  | config
  | logLevel
  | logFile
  | trace
  | version
  deriving DecidableEq, Repr, Inhabited

namespace Switch

def names : Switch → List String
  | .help => ["-h", "--help"]
  | .source => ["--from"]
  | .target => ["--to"]
  | .out => ["--out", "-o"]
  | .linkUnderline => ["--link-underline"]
  | .cventry => ["--cventry"]
  | .indent => ["--indent"]
  | .config => ["--config"]
  | .logLevel => ["--log-level"]
  | .logFile => ["--log-file"]
  | .trace => ["--trace"]
  | .version => ["--version"]

def all : List Switch :=
  [.help, .source, .target, .out, .linkUnderline, .cventry, .indent, .config, .logLevel, .logFile,
   .trace, .version]

def takesValue : Switch → Bool
  | .source => true
  | .target => true
  | .out => true
  | .indent => true
  | .config => true
  | .logLevel => true
  | .logFile => true
  | _ => false

def title (s : Switch) : String := "/".intercalate s.names

def table : List (String × Switch) := all.flatMap fun s => s.names.map fun name => (name, s)

def ofName? (name : String) : Option Switch := table.lookup name

end Switch

/-! ### Errors -/

inductive UsageError where
  | ambiguous (word : String) (names : List String)
  | expectsValue (option : Switch)
  | refusesValue (option : Switch) (value : String)
  | notAnInteger (option : Switch) (value : String)
  | notAChoice (option : Switch) (value : String) (choices : List String)
  | leftOver (words : List String)
  deriving DecidableEq, Repr

def inQuotes (s : String) : String := String.ofList (Text.quoted s.toList)

def UsageError.message : UsageError → String
  | .ambiguous word names =>
    let names := ", ".intercalate names
    s!"ambiguous option: {word} could match {names}"
  | .expectsValue option => s!"argument {option.title}: expected one argument"
  | .refusesValue option value =>
    s!"argument {option.title}: ignored explicit argument {inQuotes value}"
  | .notAnInteger option value =>
    s!"argument {option.title}: invalid int value: {inQuotes value}"
  | .notAChoice option value choices =>
    let choices := ", ".intercalate (choices.map inQuotes)
    s!"argument {option.title}: invalid choice: {inQuotes value} (choose from {choices})"
  | .leftOver words =>
    let words := " ".intercalate words
    s!"unrecognized arguments: {words}"

inductive Stop where
  | error (e : UsageError)
  | help
  | version
  deriving DecidableEq, Repr

/-! ### Words -/

inductive Word where
  | plain (text : String)
  | separator
  | option (switch : Switch) (value : Option String)
  | helpBefore (switch : Switch)
  | unknown (text : String)
  deriving DecidableEq, Repr

def splitValue (cs : List Char) : List Char × Option (List Char) :=
  match cs.dropWhile (· != '=') with
  | _ :: value => (cs.takeWhile (· != '='), some value)
  | [] => (cs, none)

def areDigits (cs : List Char) : Bool := !cs.isEmpty && cs.all fun c => (Text.digitValue? c).isSome

/-- Is a word a negative number? A line feed may end it. -/
def isNegative (cs : List Char) : Bool :=
  match cs with
  | '-' :: number =>
    let number := if number.getLast? = some '\n' then number.dropLast else number
    areDigits number ||
      match number.dropWhile (· != '.') with
      | _ :: places =>
        let whole := number.takeWhile (· != '.')
        (whole.isEmpty || areDigits whole) && areDigits places
      | [] => false
  | _ => false

/-- A word that begins no option: negative numbers and words with spaces are plain. -/
def otherWord (word : String) : Word :=
  if isNegative word.toList || word.toList.contains ' ' then .plain word else .unknown word

/-- The word of a long name that may be cut short. -/
def longWord (word : String) (name : List Char) (value : Option (List Char)) :
    Except Stop Word :=
  match Switch.table.filter fun e => name.isPrefixOf e.1.toList with
  | [] => .ok (otherWord word)
  | [(_, s)] => .ok (.option s (value.map String.ofList))
  | several => .error (.error (.ambiguous word (several.map (·.1))))

/-- The word of help with letters behind its own: more letters of help, and at the end perhaps that
of the output, with its value in the same word or behind it. Others are refused. -/
def helpWord : List Char → Word
  | [] => .option .help none
  | 'h' :: cs => helpWord cs
  | ['o'] => .helpBefore .out
  | 'o' :: _ => .option .help none
  | cs => .option .help (some (String.ofList cs))

def shortWord (s : Switch) (value : List Char) : Word :=
  if s = .help ∧ value ≠ [] then helpWord value else .option s (some (String.ofList value))

def valueWord (s : Switch) (isLong : Bool) (value : List Char) : Word :=
  if isLong then .option s (some (String.ofList value)) else shortWord s value

def dashWord (word : String) (cs : List Char) : Except Stop Word :=
  let (name, value) := splitValue cs
  let isLong := ['-', '-'].isPrefixOf cs
  match value.bind fun value => (Switch.ofName? (String.ofList name)).map fun s => (s, value) with
  | some (s, value) => .ok (valueWord s isLong value)
  | none =>
    if isLong then longWord word name value
    else
      match Switch.ofName? (String.ofList (cs.take 2)) with
      | some s => .ok (shortWord s (cs.drop 2))
      | none => .ok (otherWord word)

def classify (word : String) : Except Stop Word :=
  match word.toList with
  | '-' :: cs =>
    match Switch.ofName? word with
    | some s => .ok (.option s none)
    | none => if cs.isEmpty then .ok (.plain word) else dashWord word ('-' :: cs)
  | _ => .ok (.plain word)

/-- Tells what the words of a command line are: behind two dashes all are plain. -/
def classifyAll : List String → Except Stop (List Word)
  | [] => .ok []
  | "--" :: rest => .ok (.separator :: rest.map .plain)
  | word :: rest => do
    let first ← classify word
    let others ← classifyAll rest
    .ok (first :: others)

/-! ### Taking the words -/

structure Arguments where
  input : Option String := none
  source : String
  target : String
  out : Option String := none
  linkUnderline : Bool := false
  cventry : Bool := false
  indent : Option Int := none
  config : Option String := none
  logLevel : String
  logFile : Option String := none
  trace : Bool := false
  deriving Repr, Inhabited

def upper (s : String) : String := String.ofList (Text.upper s.toList)

def Arguments.default (environment : List (String × String)) : Arguments where
  source := (environment.lookup "RESUMARK_FROM").getD "markdown"
  target := (environment.lookup "RESUMARK_TO").getD "html"
  logLevel := upper ((environment.lookup "RESUMARK_LOG_LEVEL").getD "WARNING")

def choose (s : Switch) (value : String) (choices : List String) : Except Stop String :=
  if choices.contains value then .ok value else .error (.error (.notAChoice s value choices))

def Arguments.assign (a : Arguments) (s : Switch) (value : String) : Except Stop Arguments :=
  match s with
  | .source => do .ok { a with source := ← choose s value ["markdown", "tree"] }
  | .target => do .ok { a with target := ← choose s value ["html", "latex", "tree"] }
  | .out => .ok { a with out := some value }
  | .indent =>
    match Text.integer? value.toList with
    | some n => .ok { a with indent := some n }
    | none => .error (.error (.notAnInteger s value))
  | .config => .ok { a with config := some value }
  | .logLevel => do
    .ok { a with logLevel := ← choose s (upper value) (Log.Level.all.map Log.Level.name) }
  | .logFile => .ok { a with logFile := some value }
  | _ => .error (.error (.refusesValue s value))

def Arguments.turnOn (a : Arguments) (s : Switch) : Except Stop Arguments :=
  match s with
  | .help => .error .help
  | .version => .error .version
  | .linkUnderline => .ok { a with linkUnderline := true }
  | .cventry => .ok { a with cventry := true }
  | .trace => .ok { a with trace := true }
  | _ => .error (.error (.expectsValue s))

/-- What was taken so far: whether the input was, just now or before, the option that waits for its
value, whether help is given once it has it, and the words that are left over. -/
structure Taken where
  arguments : Arguments
  hasInput : Bool := false
  isBehindInput : Bool := false
  awaiting : Option Switch := none
  asksHelp : Bool := false
  leftOver : List String := []

def Taken.input (t : Taken) (word : String) : Taken :=
  { t with
    arguments := { t.arguments with input := some word }, hasInput := true, isBehindInput := true }

def Taken.leave (t : Taken) (word : String) : Taken :=
  { t with leftOver := t.leftOver ++ [word], isBehindInput := false }

def Taken.ask (t : Taken) (arguments : Arguments) : Taken :=
  { t with arguments, awaiting := none, isBehindInput := false }

/-- Takes one word. Two dashes mean nothing before the input and directly behind it. -/
def Taken.step (t : Taken) (word : Word) : Except Stop Taken :=
  match t.awaiting, word with
  | some s, .plain value =>
    if t.asksHelp then .error .help else (t.arguments.assign s value).map t.ask
  | some s, _ => .error (.error (.expectsValue s))
  | none, .plain text => .ok (if t.hasInput then t.leave text else t.input text)
  | none, .separator =>
    .ok (if t.hasInput && !t.isBehindInput then t.leave "--" else { t with isBehindInput := false })
  | none, .unknown text => .ok (t.leave text)
  | none, .helpBefore s => .ok { t with awaiting := some s, asksHelp := true, isBehindInput := false }
  | none, .option s (some value) => (t.arguments.assign s value).map t.ask
  | none, .option s none =>
    if s.takesValue then .ok { t with awaiting := some s, isBehindInput := false }
    else (t.arguments.turnOn s).map t.ask

/-- What is asked for once all words are taken: no option waits and no word is left over. -/
def Taken.finish (t : Taken) : Except Stop Arguments :=
  match t.awaiting with
  | some s => .error (.error (.expectsValue s))
  | none => if t.leftOver.isEmpty then .ok t.arguments else .error (.error (.leftOver t.leftOver))

def parseArguments (environment : List (String × String)) (words : List String) :
    Except Stop Arguments := do
  let words ← classifyAll words
  let taken ← words.foldlM Taken.step { arguments := .default environment }
  taken.finish

end Vitae.CommandLine
