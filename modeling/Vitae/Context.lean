import Vitae.Json.Display
import Vitae.Failure

/-!
# Generation context

What the document around a fragment prescribes for its presentation: whether links are underlined.
It is read from nested mappings, `typography` and in it `links`, of which any level may be missing.
-/

namespace Vitae

structure Context where
  linkUnderline : Bool := false
  deriving DecidableEq, Repr, Inhabited

namespace Context

/-- The mapping under a key; a missing or null one is empty. -/
def section? (members : List (String × Json)) (key : String) :
    Except Failure (List (String × Json)) :=
  match Json.member? members key with
  | none => .ok []
  | some .null => .ok []
  | some (.obj inner) => .ok inner
  | some other =>
    .error (.validation s!"'{key}' must be a mapping, got {other.typeName}" (some key) none)

def underlineOf : Option Json → Except Failure Bool
  | none => .ok false
  | some .null => .ok false
  | some (.bool b) => .ok b
  | some other =>
    .error (.validation s!"'underline' must be true or false, got {other.displayString}"
      (some "underline") none)

def ofMembers (members : List (String × Json)) : Except Failure Context := do
  let typography ← section? members "typography"
  let links ← section? typography "links"
  let underline ← underlineOf (Json.member? links "underline")
  .ok ⟨underline⟩

/-- The context of a value: null stands for the default one. -/
def ofValue : Json → Except Failure Context
  | .null => .ok {}
  | .obj members => ofMembers members
  | other =>
    .error (.validation
      s!"context must be a GenerationContext or a mapping, got {other.typeName}"
      (some "context") none)

/-- The context of a mapping or null; any other value cannot be looked into. -/
def ofMapping : Json → Except Failure Context
  | .null => .ok {}
  | .obj members => ofMembers members
  | _ => .error .noSuchMember

end Context

end Vitae
