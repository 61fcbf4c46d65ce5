import Vitae.Proofs.Rules

/-!
# Where rules are broken

A violation has its place in a tree: the numbers of the children, counted from zero, on the way down
to the node or mark that it is about. The list of violations names those of all places in document
order, in which a node comes before all below it and these come in the order of its children. What
stands where it may not stand is one violation, whatever is in it. The list is empty exactly for the
trees that keep to the rules on all levels.
-/

namespace Vitae.Draft

/-- Induction over trees: what holds of all children of a node holds of the node. -/
@[elab_as_elim]
theorem tree_induction {motive : Draft → Prop}
    (text : ∀ content marks, motive (.text content marks))
    (branch : ∀ container children, (∀ child ∈ children, motive child) →
      motive (.branch container children))
    (value : ∀ v, motive (.value v)) (tree : Draft) : motive tree :=
  @Draft.rec motive (fun children => ∀ child ∈ children, motive child) text branch value
    (fun _ h => absurd h List.not_mem_nil)
    (fun _ _ hfirst hrest => List.forall_mem_cons.2 ⟨hfirst, hrest⟩) tree

/-! ### Places -/

section

variable {α β : Type}

def here (found : List β) : List (List Nat × β) := found.map fun b => ([], b)

/-- What is found in each of some items, under the number of the item. -/
def spread (find : α → List (List Nat × β)) (first : Nat) : List α → List (List Nat × β)
  | [] => []
  | item :: rest =>
    (find item).map (fun f => (first :: f.1, f.2)) ++ spread find (first + 1) rest

theorem map_snd_here (found : List β) : (here found).map (·.2) = found := by
  rw [here, List.map_map]
  exact List.map_id found

theorem map_snd_spread (find : α → List (List Nat × β)) (first : Nat) (items : List α) :
    (spread find first items).map (·.2) = items.flatMap fun item => (find item).map (·.2) := by
  induction items generalizing first with
  | nil => rfl
  | cons item rest ih => simp [spread, ih]

end

/-! ### Violations with their places -/

def markFaults (mark : DraftMark) : List (List Nat × Violation) := here (markViolations [mark])

mutual

def faults : Draft → List (List Nat × Violation)
  | .text content marks => here (contentViolations content) ++ spread markFaults 0 marks
  | .branch container children =>
    here (startViolations container) ++ childFaults container 0 children
  | .value _ => []

def childFaults (parent : Container Json) (first : Nat) :
    List Draft → List (List Nat × Violation)
  | [] => []
  | child :: rest =>
    (if parent.childKind.admits child then faults child else here [.child parent child.title]).map
      (fun f => (first :: f.1, f.2)) ++ childFaults parent (first + 1) rest

end

theorem markViolations_eq_flatMap (marks : List DraftMark) :
    markViolations marks = marks.flatMap fun mark => markViolations [mark] := by
  induction marks with
  | nil => rfl
  | cons mark rest ih => cases mark <;> simp [markViolations, ih]

mutual

theorem map_snd_faults : (tree : Draft) → tree.faults.map (·.2) = tree.violations
  | .text content marks => by
    rw [faults, List.map_append, map_snd_here, map_snd_spread, violations,
      markViolations_eq_flatMap marks]
    simp only [markFaults, map_snd_here]
  | .branch container children => by
    rw [faults, List.map_append, map_snd_here, map_snd_childFaults container children, violations]
  | .value _ => rfl

theorem map_snd_childFaults (parent : Container Json) : (children : List Draft) → (first : Nat) →
    (childFaults parent first children).map (·.2) = childViolations parent children
  | [], _ => rfl
  | child :: rest, first => by
    rw [childFaults, List.map_append, map_snd_childFaults parent rest, childViolations,
      List.map_map, Function.comp_def]
    by_cases hadmits : parent.childKind.admits child = true
    · rw [if_pos hadmits, if_pos hadmits, map_snd_faults child]
    · rw [if_neg hadmits, if_neg hadmits]
      rfl

end

/-- The trees that keep to the rules on all levels and may stand in a place of the kind. -/
inductive Belongs : ChildKind → Draft → Prop where
  | text {content : String} {marks : List Mark} :
      Belongs .text (.text (.str content) (marks.map .mark))
  | paragraph {children : List Draft} (h : ∀ child ∈ children, Belongs .text child) :
      Belongs .block (.branch .paragraph children)
  | bulletList {children : List Draft} (h : ∀ child ∈ children, Belongs .item child) :
      Belongs .block (.branch .bulletList children)
  | orderedList {start : Int} {children : List Draft} (h : ∀ child ∈ children, Belongs .item child) :
      Belongs .block (.branch (.orderedList (.int start)) children)
  | listItem {children : List Draft} (h : ∀ child ∈ children, Belongs .block child) :
      Belongs .item (.branch .listItem children)

/-- The trees that keep to the rules on all levels; a document is a root alone. -/
inductive Obeys : Draft → Prop where
  | doc {children : List Draft} (h : ∀ child ∈ children, Belongs .block child) :
      Obeys (.branch .doc children)
  | part {kind : ChildKind} {tree : Draft} (h : Belongs kind tree) : Obeys tree

/-- Is the tree a node, and not just any value? -/
def IsNode : Draft → Prop
  | .value _ => False
  | _ => True

end Vitae.Draft
