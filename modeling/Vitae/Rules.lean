import Vitae.Draft
import Vitae.Failure
import Vitae.Json.Display

/-!
# Structural rules

Where each kind of node belongs: a document and a list item hold blocks (paragraphs and lists), a
paragraph holds text, a list holds list items. The first number of an ordered list is an integer,
the content of a text is a string and its marks are marks. `violations` lists what breaks a rule in
document order: a child of the wrong kind is reported once and not looked into. `check` stops at
the first violation, and gives up on a tree of too many levels. The message of a violation names the
type of what was found, but a first number it shows; where that cannot be shown there is none.
-/

namespace Vitae

inductive Violation where
  | child (parent : Container Json) (found : String)
  | start (found : Json)
  | content (found : String)
  | mark (found : String)
  deriving Repr

inductive ChildKind where
  | block
  | text
  | item
  deriving DecidableEq, Repr

def Container.childKind {σ : Type} : Container σ → ChildKind
  | .doc => .block
  | .listItem => .block
  | .paragraph => .text
  | .bulletList => .item
  | .orderedList _ => .item

def ChildKind.description : ChildKind → String
  | .block => "block nodes"
  | .text => "text nodes"
  | .item => "list items"

def ChildKind.admits : ChildKind → Draft → Bool
  | .block, .branch .paragraph _ => true
  | .block, .branch .bulletList _ => true
  | .block, .branch (.orderedList _) _ => true
  | .text, .text .. => true
  | .item, .branch .listItem _ => true
  | _, _ => false

def Violation.message : Violation → Option String
  | .child parent found =>
    some s!"{parent.title} children must be {parent.childKind.description}, got {found}"
  | .start found =>
    found.shown?.map fun shown => s!"OrderedList start must be an integer, got {shown}"
  | .content found => some s!"Text content must be a string, got {found}"
  | .mark found => some s!"Text marks must be marks, got {found}"

/-- What a violation that is not passed over fails with; without a message it is what showing the
first number fails with. -/
def Violation.failure (v : Violation) : Failure :=
  match v.message with
  | some message => .validation message none none
  | none => .badValue none

namespace Draft

def startViolations : Container Json → List Violation
  | .orderedList (.int _) => []
  | .orderedList found => [.start found]
  | _ => []

def contentViolations : Json → List Violation
  | .str _ => []
  | found => [.content found.typeName]

def markViolations : List DraftMark → List Violation
  | [] => []
  | .mark _ :: rest => markViolations rest
  | .value found :: rest => .mark found.typeName :: markViolations rest

mutual

def violations : Draft → List Violation
  | .text content marks => contentViolations content ++ markViolations marks
  | .branch container children => startViolations container ++ childViolations container children
  | .value _ => []

def childViolations (parent : Container Json) : List Draft → List Violation
  | [] => []
  | child :: rest =>
    (if parent.childKind.admits child then violations child else [.child parent child.title]) ++
      childViolations parent rest

end

inductive Objection where
  | violation (v : Violation)
  | tooDeep
  deriving Repr

/-- Passes if there is no violation, else stops at the first. -/
def stopAt : List Violation → Except Objection Unit
  | [] => .ok ()
  | v :: _ => .error (.violation v)

mutual

/-- Passes a tree without violations; else stops at the first of them, or where the tree has more
than the given number of levels. -/
def check (levels : Nat) : Draft → Except Objection Unit
  | .text content marks =>
    match levels with
    | 0 => .error .tooDeep
    | _ + 1 => stopAt (contentViolations content ++ markViolations marks)
  | .branch container children =>
    match levels with
    | 0 => .error .tooDeep
    | levels + 1 =>
      match stopAt (startViolations container) with
      | .error e => .error e
      | .ok () => checkChildren levels container children
  | .value _ => .ok ()

def checkChildren (levels : Nat) (parent : Container Json) : List Draft → Except Objection Unit
  | [] => .ok ()
  | child :: rest =>
    if parent.childKind.admits child then
      match check levels child with
      | .error e => .error e
      | .ok () => checkChildren levels parent rest
    else .error (.violation (.child parent child.title))

end

end Draft

end Vitae
