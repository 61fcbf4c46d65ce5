import Vitae.Proofs.Faults
import Vitae.Proofs.Results
import Vitae.Validator

/-!
# What validators report

Going through a tree is reporting its violations one after the other. So a validator that is not
strict notes all of them and does not fail, and a strict one fails with the first and notes none. What
a first number is that is no integer has to be shown; a validator that cannot show it fails there,
strict or not. The check that strict reading makes is what a strict validator does.
-/

namespace Vitae

namespace Draft

def Objection.failure : Objection → Failure
  | .violation v => v.failure
  | .tooDeep => .tooDeep

end Draft

/-! ### Messages -/

namespace Draft

end Draft

namespace Validator

/-! ### A visit is a list of reports -/

theorem isNode_of_admits {kind : ChildKind} {tree : Draft} (h : kind.admits tree = true) :
    tree.IsNode := by
  cases tree with
  | value v => cases kind <;> cases h
  | _ => trivial

theorem after_bind {α β : Type} (x : Visit α) (f : α → Visit β) (validator : Validator) :
    after (x >>= f) validator = match after x validator with
      | (.ok a, next) => after (f a) next
      | (.error e, next) => (.error e, next) := by
  have hrun := run_bind x f validator
  unfold after
  rw [hrun]
  rcases x.run.run validator with ⟨_ | _, _⟩ <;> rfl

theorem after_report_strict (v : Violation) (errors : List String) :
    after (report v) ⟨true, errors⟩ = (.error v.failure, ⟨true, errors⟩) := by
  unfold report
  cases v.message <;> rfl

theorem after_reports_strict (vs : List Violation) (errors : List String) :
    after (forM vs report) ⟨true, errors⟩ =
      ((Draft.stopAt vs).mapError Draft.Objection.failure, ⟨true, errors⟩) := by
  cases vs with
  | nil => rfl
  | cons v rest =>
    rw [List.forM_cons, after_bind, after_report_strict]
    rfl

/-- On a strict validator the visit has this result, and it notes nothing. -/
def Mirrors (x : Visit Unit) (r : Except Draft.Objection Unit) : Prop :=
  ∀ errors, after x ⟨true, errors⟩ = (r.mapError Draft.Objection.failure, ⟨true, errors⟩)

theorem Mirrors.bind {x y : Visit Unit} {r q : Except Draft.Objection Unit} :
    Mirrors x r → Mirrors y q →
      Mirrors (x >>= fun _ => y) (match r with
        | .error e => .error e
        | .ok () => q) := by
  intro hx hy errors
  rw [after_bind, hx errors]
  cases r with
  | error e => rfl
  | ok u => exact hy errors

theorem mirrors_visitChildren {levels : Nat} {parent : Container Json} {children : List Draft}
    (h : ∀ child ∈ children, parent.childKind.admits child = true →
      Mirrors (visit levels child) (Draft.check levels child)) :
    Mirrors (visitChildren levels parent children)
      (Draft.checkChildren levels parent children) := by
  induction children with
  | nil => exact fun _ => rfl
  | cons child rest ih =>
    obtain ⟨hchild, hrest⟩ := List.forall_mem_cons.1 h
    rw [visitChildren, Draft.checkChildren]
    by_cases hadmits : parent.childKind.admits child = true
    · rw [if_pos hadmits, if_pos hadmits]
      exact (hchild hadmits).bind (ih hrest)
    · rw [if_neg hadmits, if_neg hadmits]
      exact fun _ => rfl

/-- What strict reading checks is what a strict validator does, also where there are too many
levels. -/
theorem mirrors_visit {tree : Draft} : ∀ levels : Nat, tree.IsNode →
    Mirrors (visit levels tree) (Draft.check levels tree) := by
  induction tree using Draft.tree_induction with
  | text content marks =>
    intro levels _
    cases levels with
    | zero => exact fun _ => rfl
    | succ levels =>
      rw [visit, Draft.check, ← List.forM_append]
      exact after_reports_strict _
  | branch container children ih =>
    intro levels _
    cases levels with
    | zero => exact fun _ => rfl
    | succ levels =>
      have hstart : Mirrors (forM (Draft.startViolations container) report)
          (Draft.stopAt (Draft.startViolations container)) := after_reports_strict _
      have hchildren : Mirrors (visitChildren levels container children)
          (Draft.checkChildren levels container children) :=
        mirrors_visitChildren fun child hchild hadmits =>
          ih child hchild levels (isNode_of_admits hadmits)
      rw [visit, Draft.check]
      exact hstart.bind hchildren
  | value v =>
    intro levels hnode
    exact absurd hnode id

/-! ### Both kinds -/

end Validator

end Vitae
