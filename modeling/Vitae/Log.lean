import Vitae.Failure
import Vitae.Json.Display
import Vitae.Text.Case

/-!
# Log

A run notes what it does in records. A record is shown if it is severe enough, as a line with its
severity and message or, traced, also with the time and the part of the program it comes from.
-/

namespace Vitae.Log

inductive Level where
  | debug
  | info
  | warning
  | error
  | critical
  deriving DecidableEq, Repr, Inhabited

namespace Level

def name : Level → String
  | .debug => "DEBUG"
  | .info => "INFO"
  | .warning => "WARNING"
  | .error => "ERROR"
  | .critical => "CRITICAL"

def rank : Level → Int
  | .debug => 10
  | .info => 20
  | .warning => 30
  | .error => 40
  | .critical => 50

def all : List Level := [.debug, .info, .warning, .error, .critical]

end Level

def thresholds : List (String × Int) :=
  (Level.all.map fun level => (level.name, level.rank)) ++
    [("WARN", Level.warning.rank), ("FATAL", Level.critical.rank), ("NOTSET", 0)]

/-- The attributes of the logging library with names in upper case: its thresholds, and two that are
no thresholds. -/
def attributes : List (String × Json) :=
  (thresholds.map fun t => (t.1, .int t.2)) ++
    [("BASIC_FORMAT", .str "%(levelname)s:%(name)s:%(message)s"),
     ("_STYLES", .thing ⟨"dict", true, "", none⟩)]

/-- What a name in upper or lower case stands for; an unknown name stands for the rank of
warnings. -/
def levelOf (name : String) : Json :=
  (attributes.lookup (String.ofList (Text.upper name.toList))).getD (.int Level.warning.rank)

/-- The threshold that a value sets: a rank, or the name of one. -/
def thresholdOf : Json → Except Failure Int
  | .int rank => .ok rank
  | .str name =>
    match thresholds.lookup name with
    | some rank => .ok rank
    | none => .error (.badValue (some s!"Unknown level: {(Json.str name).displayString}"))
  | _ => .error .wrongType

/-- The least rank of records that are shown at a threshold; zero sets none, and then it is that of
warnings. -/
def leastShown (threshold : Int) : Int :=
  if threshold = 0 then Level.warning.rank else threshold

/-- A record: how severe it is, where it comes from and what it says. The details that a withheld
record would go on with are not shown, nor is the end of its line. -/
structure Record where
  level : Level
  source : String
  message : String
  isWithheld : Bool := false
  deriving DecidableEq, Repr, Inhabited

/-- How records are shown: traced ones bear a time. -/
structure Style where
  time : Option String := none
  deriving Repr, Inhabited

def Record.text (style : Style) (r : Record) : String :=
  let line := match style.time with
    | some time => s!"[{time}] [{r.level.name}] [{r.source}] {r.message}"
    | none => s!"{r.level.name}: {r.message}"
  if r.isWithheld then line else line ++ "\n"

def Record.isShown (threshold : Int) (r : Record) : Bool :=
  decide (leastShown threshold ≤ r.level.rank)

/-! ### Noting while computing -/

/-- A computation that notes records and may fail; what was noted before a failure remains. -/
abbrev Noted := ExceptT Failure (StateM (List Record))

def note (records : List Record) : Noted Unit := modify (· ++ records)

def Noted.outcome {α : Type} (x : Noted α) : Except Failure α × List Record := x.run.run []

end Vitae.Log
