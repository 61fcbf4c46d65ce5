/-!
# Failures

What a run can fail with, in the form in which it is reported: the kind of failure, its wording and
what it goes back to. Each kind has its exit code.
-/

namespace Vitae

inductive Cause where
  | json
  | toml
  | yaml
  | nesting
  | missing
  | directory
  | notDirectory
  | refused (number : Nat)
  | byteDestination
  deriving DecidableEq, Repr

/-- A failure. The last six are not foreseen: text that is no text, nesting that no reader follows,
and values of a wrong kind. -/
inductive Failure where
  | general (message : String)
  | validation (message : String) (parameter : Option String) (cause : Option Cause)
  | options (component expected received : String) (own : Option String)
  | format (name : String) (supported : List String) (own : Option String)
  | parsing (message : String) (stage : Option String) (cause : Option Cause)
  | rendering (message : String) (path : Option String) (cause : Option Cause)
  | system (cause : Cause) (message : String)
  | badValue (message : Option String)
  | badText
  | tooDeep
  | wrongType
  | noSuchMember
  | noSuchKey
  | noSuchIndex
  deriving DecidableEq, Repr

namespace Failure

def message : Failure → Option String
  | .general message => some message
  | .validation message _ _ => some message
  | .options component expected received own =>
    some (own.getD s!"The {component} component takes {expected}, not {received}")
  | .format name supported own =>
    let choices := ", ".intercalate supported
    let choices := if supported.isEmpty then "" else s!" (choose from: {choices})"
    some (own.getD (s!"Unknown format '{name}'" ++ choices))
  | .parsing message _ _ => some message
  | .rendering message _ _ => some message
  | .system _ message => some message
  | .badValue message => message
  | _ => none

def exitCode : Failure → Nat
  | .validation .. => 3
  | .options .. => 3
  | .system .. => 4
  | .format .. => 5
  | .parsing .. => 6
  | .rendering .. => 7
  | _ => 1

/-- Is the failure one that is foreseen, and so reported by its wording alone? -/
def isForeseen : Failure → Bool
  | .badValue _ => false
  | .badText => false
  | .tooDeep => false
  | .wrongType => false
  | .noSuchMember => false
  | .noSuchKey => false
  | .noSuchIndex => false
  | _ => true

end Failure

end Vitae
