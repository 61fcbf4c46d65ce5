import Vitae.Failure
import Vitae.Rules

/-!
# Validators

A validator goes through trees and reports what breaks the structural rules. A strict one fails at
the first violation; one that is not strict notes the message of every violation and goes on. Both
fail at a violation that has no message. What a validator has noted stays with it, so it can go
through several trees one after the other.
-/

namespace Vitae

structure Validator where
  strict : Bool
  errors : List String := []
  deriving DecidableEq, Repr

/-- What is done in the course of a validator's visits. -/
abbrev Visit := ExceptT Failure (StateM Validator)

namespace Validator

def report (v : Violation) : Visit Unit := do
  match v.message with
  | none => throw v.failure
  | some message =>
    let validator ← get
    if validator.strict then throw v.failure
    else set { validator with errors := validator.errors ++ [message] }

mutual

/-- Goes through a tree of not more than the given number of levels. What is no node cannot be
gone through, but is never looked into as a child. -/
def visit (levels : Nat) : Draft → Visit Unit
  | .text content marks =>
    match levels with
    | 0 => throw .tooDeep
    | _ + 1 => do
      forM (Draft.contentViolations content) report
      forM (Draft.markViolations marks) report
  | .branch container children =>
    match levels with
    | 0 => throw .tooDeep
    | levels + 1 => do
      forM (Draft.startViolations container) report
      visitChildren levels container children
  | .value _ => throw .noSuchMember

def visitChildren (levels : Nat) (parent : Container Json) : List Draft → Visit Unit
  | [] => pure ()
  | child :: rest => do
    if parent.childKind.admits child then visit levels child
    else report (.child parent child.title)
    visitChildren levels parent rest

end

/-- The outcome of a visit and the validator after it. -/
def after {α : Type} (visit : Visit α) (validator : Validator) : Except Failure α × Validator :=
  visit.run.run validator

end Validator

end Vitae
