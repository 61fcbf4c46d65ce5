import Vitae.Failure
import Vitae.Path
import Vitae.Text.Quoted

/-!
# Files

The files that a run finds and leaves: what lies at each place, the place of the working folder,
and what the system refuses. A place is the list of names from the root. Reading and writing follow a
path name by name, through folders only, and say at which obstacle they stop.
-/

namespace Vitae

inductive Entry where
  | file (content : ByteArray)
  | folder
  deriving Inhabited

instance : DecidableEq Entry
  | .file a, .file b =>
    match ByteArray.decEq a b with
    | isTrue h => isTrue (congrArg Entry.file h)
    | isFalse h => isFalse fun heq => h (Entry.file.inj heq)
  | .folder, .folder => isTrue rfl
  | .file _, .folder => isFalse nofun
  | .folder, .file _ => isFalse nofun

abbrev Place := List String

/-- What the system may refuse at a place: to look for names in the folder there, to go there at all,
to open what is there for reading, to open or make a file there for writing. -/
inductive Use where
  | search
  | reach
  | read
  | write
  deriving DecidableEq, Repr

/-- What the system says where it refuses something, such as 13 and "Permission denied" or 36 and
"File name too long". -/
structure SystemError where
  number : Nat
  reason : String
  deriving DecidableEq, Repr, Inhabited

/-- The working folder, what lies where, and what is refused where. Folders on the way to an entry
need no entry. Refusals come when a file is opened, not later. -/
structure Files where
  home : Place := []
  entries : List (Place × Entry) := []
  refusals : List ((Use × Place) × SystemError) := []
  deriving DecidableEq, Inhabited

inductive OpenError where
  | missing
  | isFolder
  | notFolder
  | refused (e : SystemError)
  deriving DecidableEq, Repr

namespace OpenError

def cause : OpenError → Cause
  | .missing => .missing
  | .isFolder => .directory
  | .notFolder => .notDirectory
  | .refused e => .refused e.number

def reason : OpenError → String
  | .missing => "[Errno 2] No such file or directory"
  | .isFolder => "[Errno 21] Is a directory"
  | .notFolder => "[Errno 20] Not a directory"
  | .refused e => s!"[Errno {e.number}] {e.reason}"

def message (e : OpenError) (path : String) : String :=
  e.reason ++ ": " ++ String.ofList (Text.quoted path.toList)

def failure (e : OpenError) (path : String) : Failure := .system e.cause (e.message path)

end OpenError

namespace Files

/-! ### Looking up -/

def isBelow (place other : Place) : Bool :=
  other.isPrefixOf place && decide (other.length < place.length)

/-- Is a place on the way to the working folder or to an entry? -/
def onTheWay (files : Files) (place : Place) : Bool :=
  place.isPrefixOf files.home || files.entries.any fun e => isBelow e.1 place

def find? (files : Files) (place : Place) : Option Entry :=
  match files.entries.lookup place with
  | some entry => some entry
  | none => if files.onTheWay place then some .folder else none

/-- Passes where a use of a place is not refused. -/
def allow (files : Files) (use : Use) (place : Place) : Except OpenError Unit :=
  match files.refusals.lookup (use, place) with
  | some e => .error (.refused e)
  | none => .ok ()

def enter (files : Files) (place : Place) (name : String) : Except OpenError Place :=
  match files.find? place with
  | none => .error .missing
  | some (.file _) => .error .notFolder
  | some .folder => do
    let there := if name = ".." then place.dropLast else place ++ [name]
    files.allow .search place
    files.allow .reach there
    .ok there

/-- The place that a path leads to; every name but the last has to be in a folder. -/
def locate (files : Files) (path : Path) : Except OpenError Place :=
  path.names.foldlM files.enter (if path.root = "" then files.home else [])

/-! ### Reading and writing -/

def readAt (files : Files) (place : Place) : Except OpenError ByteArray :=
  match files.find? place with
  | none => .error .missing
  | some entry => do
    files.allow .read place
    match entry with
    | .folder => .error .isFolder
    | .file content => .ok content

def read (files : Files) (path : Path) : Except OpenError ByteArray := do
  let place ← files.locate path
  files.readAt place

/-- Errors that say that there is no file, as loops of links do. -/
def saysNoFile : OpenError → Bool
  | .refused e => [2, 9, 20, 40].contains e.number
  | _ => true

/-- Is there a file at a path? Other errors than those that say no are passed on. -/
def isFile (files : Files) (path : Path) : Except OpenError Bool :=
  match files.locate path with
  | .ok place => .ok (files.find? place matches some (.file _))
  | .error e => if saysNoFile e then .ok false else .error e

def setEntry (place : Place) (entry : Entry) : List (Place × Entry) → List (Place × Entry)
  | [] => [(place, entry)]
  | e :: rest => if e.1 = place then (place, entry) :: rest else e :: setEntry place entry rest

theorem lookup_setEntry_self (place : Place) (entry : Entry) (entries : List (Place × Entry)) :
    (setEntry place entry entries).lookup place = some entry := by
  induction entries with
  | nil => simp [setEntry]
  | cons e rest ih =>
    obtain ⟨q, f⟩ := e
    by_cases h : q = place
    · simp [setEntry, h]
    · have h' : (place == q) = false := by simpa using fun hq => h hq.symm
      simp [setEntry, h, List.lookup_cons, h', ih]

theorem lookup_setEntry_other {place other : Place} (entry : Entry)
    (entries : List (Place × Entry)) (h : other ≠ place) :
    (setEntry place entry entries).lookup other = entries.lookup other := by
  induction entries with
  | nil =>
    simp [setEntry, h]
  | cons e rest ih =>
    obtain ⟨q, f⟩ := e
    by_cases hq : q = place
    · have ho : (other == q) = false := by simpa [hq] using h
      have hp : (other == place) = false := by simpa using h
      simp [setEntry, hq, List.lookup_cons, hp]
    · simp only [setEntry, hq, if_false, List.lookup_cons]
      rw [ih]

def store (files : Files) (place : Place) (content : ByteArray) : Files :=
  { files with entries := setEntry place (.file content) files.entries }

/-- The place at which a file can be written: it holds a file or nothing, and to write there is not
refused. -/
def writable (files : Files) (place : Place) : Except OpenError Place :=
  match files.find? place with
  | some .folder => .error .isFolder
  | _ => do
    files.allow .write place
    .ok place

def locateWritable (files : Files) (path : Path) : Except OpenError Place := do
  let place ← files.locate path
  files.writable place

def write (files : Files) (path : Path) (text : String) : Except OpenError Files := do
  let place ← files.locateWritable path
  .ok (files.store place text.toUTF8)

def append (files : Files) (place : Place) (text : String) : Files :=
  match files.find? place with
  | some (.file content) => files.store place (content ++ text.toUTF8)
  | _ => files.store place text.toUTF8

/-- The path from the root without two dots, of a path from the working folder or from the root. -/
def absolute (files : Files) (path : Path) : Path :=
  if path.root = "" then ⟨"/", Path.collapse (files.home ++ path.names)⟩
  else ⟨path.root, Path.collapse path.names⟩

end Files

end Vitae
