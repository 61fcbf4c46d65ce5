import Vitae.Proofs.Document

/-!
# The check and the list of violations

A check that is not stopped by the number of levels says of a tree what its list of violations says:
it passes if the list is empty and else stops at the first entry.
-/

namespace Vitae.Draft

mutual

/-- The number of levels of a tree; what is no node has none. -/
def levels : Draft → Nat
  | .text .. => 1
  | .branch _ children => 1 + allLevels children
  | .value _ => 0

def allLevels : List Draft → Nat
  | [] => 0
  | child :: rest => max (levels child) (allLevels rest)

end

mutual

theorem levels_ofNode : (node : Node) → (ofNode node).levels = node.levels
  | .text .. => rfl
  | .branch container children => by
    rw [ofNode, levels, Node.levels, allLevels_ofNodes children]

theorem allLevels_ofNodes : (nodes : List Node) → allLevels (ofNodes nodes) = Node.allLevels nodes
  | [] => rfl
  | child :: rest => by
    rw [ofNodes, allLevels, Node.allLevels, levels_ofNode child, allLevels_ofNodes rest]

end

theorem stopAt_append (vs ws : List Violation) :
    stopAt (vs ++ ws) = (match stopAt vs with
      | .error e => .error e
      | .ok () => stopAt ws) := by
  cases vs <;> rfl

mutual

/-- With enough levels a check stops at the first violation and nowhere else. -/
theorem check_eq_stopAt : (draft : Draft) → (limit : Nat) → draft.levels ≤ limit →
    check limit draft = stopAt draft.violations
  | .text content marks, 0, h => by
    simp only [levels] at h
    omega
  | .text content marks, limit + 1, _ => by
    rw [check, violations]
  | .branch container children, 0, h => by
    simp only [levels] at h
    omega
  | .branch container children, limit + 1, h => by
    have hchildren := checkChildren_eq_stopAt container children limit (by
      simp only [levels] at h
      omega)
    rw [check, violations, stopAt_append]
    cases hstart : stopAt (startViolations container) with
    | error e => rfl
    | ok u => exact hchildren
  | .value _, limit, _ => by
    rw [check, violations, stopAt]

theorem checkChildren_eq_stopAt (parent : Container Json) : (drafts : List Draft) → (limit : Nat) →
    allLevels drafts ≤ limit →
    checkChildren limit parent drafts = stopAt (childViolations parent drafts)
  | [], _, _ => by
    rw [checkChildren, childViolations, stopAt]
  | child :: rest, limit, h => by
    have hlevels : child.levels ≤ limit ∧ allLevels rest ≤ limit := by
      rw [allLevels] at h
      omega
    have hrest := checkChildren_eq_stopAt parent rest limit hlevels.2
    rw [checkChildren, childViolations, stopAt_append]
    by_cases hadmits : parent.childKind.admits child = true
    · rw [if_pos hadmits, if_pos hadmits, check_eq_stopAt child limit hlevels.1]
      cases hchild : stopAt child.violations with
      | error e => rfl
      | ok u => exact hrest
    · rw [if_neg hadmits, if_neg hadmits, stopAt]

end

/-- A tree of not too many levels passes exactly if it breaks no rule. -/
theorem check_eq_ok_iff {draft : Draft} {limit : Nat} (h : draft.levels ≤ limit) :
    check limit draft = .ok () ↔ draft.violations = [] := by
  rw [check_eq_stopAt draft limit h]
  cases hv : draft.violations with
  | nil => simp [stopAt]
  | cons v vs => simp [stopAt]

mutual

/-- A tree that passes has not too many levels. -/
theorem levels_le_of_check : (draft : Draft) → (limit : Nat) → check limit draft = .ok () →
    draft.levels ≤ limit
  | .text _ _, 0, h => by
    rw [check] at h
    cases h
  | .text _ _, limit + 1, _ => by
    rw [levels]
    omega
  | .branch _ _, 0, h => by
    rw [check] at h
    cases h
  | .branch container children, limit + 1, h => by
    rw [check] at h
    cases hstart : stopAt (startViolations container) with
    | error e =>
      rw [hstart] at h
      cases h
    | ok u =>
      rw [hstart] at h
      have hchildren := allLevels_le_of_checkChildren container children limit h
      rw [levels]
      omega
  | .value _, limit, _ => by
    rw [levels]
    omega

theorem allLevels_le_of_checkChildren (parent : Container Json) : (drafts : List Draft) →
    (limit : Nat) → checkChildren limit parent drafts = .ok () → allLevels drafts ≤ limit
  | [], limit, _ => by
    rw [allLevels]
    omega
  | child :: rest, limit, h => by
    rw [checkChildren] at h
    split at h
    · cases hchild : check limit child with
      | error e =>
        rw [hchild] at h
        cases h
      | ok u =>
        rw [hchild] at h
        have hfirst := levels_le_of_check child limit hchild
        have hrest := allLevels_le_of_checkChildren parent rest limit h
        rw [allLevels]
        omega
    · cases h

end

theorem check_eq_ok_iff_levels {draft : Draft} {limit : Nat} :
    check limit draft = .ok () ↔ draft.violations = [] ∧ draft.levels ≤ limit := by
  constructor
  · intro h
    have hlevels := levels_le_of_check draft limit h
    exact ⟨(check_eq_ok_iff hlevels).1 h, hlevels⟩
  · rintro ⟨hviolations, hlevels⟩
    exact (check_eq_ok_iff hlevels).2 hviolations

/-! ### Nodes in their places -/

/-- A tree that may stand in a place of this kind and breaks no rule inside. -/
def WellPlaced (place : ChildKind) (draft : Draft) : Prop :=
  place.admits draft = true ∧ draft.violations = []

theorem childViolations_eq_nil_iff {parent : Container Json} {drafts : List Draft} :
    childViolations parent drafts = [] ↔ ∀ draft ∈ drafts, draft.WellPlaced parent.childKind := by
  induction drafts with
  | nil => simp [childViolations]
  | cons child rest ih =>
    rw [childViolations, List.append_eq_nil_iff, ih, List.forall_mem_cons, WellPlaced]
    by_cases hadmits : parent.childKind.admits child = true
    · simp [hadmits]
    · simp [hadmits]

theorem childKind_map {σ τ : Type} (f : σ → τ) (container : Container σ) :
    (container.map f).childKind = container.childKind := by
  cases container <;> rfl

theorem startViolations_map_int (container : Container Int) :
    startViolations (container.map .int) = [] := by
  cases container <;> rfl

theorem markViolations_map_mark (marks : List Mark) : markViolations (marks.map .mark) = [] := by
  induction marks with
  | nil => rfl
  | cons mark rest ih => rw [List.map_cons, markViolations, ih]

theorem violations_text (content : String) (marks : List Mark) :
    (ofNode (.text content marks)).violations = [] := by
  rw [ofNode, violations, markViolations_map_mark]
  rfl

theorem violations_branch_eq_nil_iff {container : Container Int} {children : List Node} :
    (ofNode (.branch container children)).violations = [] ↔
      ∀ child ∈ children, (ofNode child).WellPlaced container.childKind := by
  rw [ofNode, violations, startViolations_map_int, List.nil_append, childViolations_eq_nil_iff,
    ofNodes_eq_map, childKind_map]
  simp

mutual

/-- In a tree that is a document only children can break a rule. -/
theorem child_of_check_ofNode {v : Violation} : (node : Node) → (limit : Nat) →
    check limit (ofNode node) = .error (.violation v) → ∃ parent found, v = .child parent found
  | .text content marks, 0, h => by
    rw [ofNode, check] at h
    cases h
  | .text content marks, limit + 1, h => by
    have hnone := violations_text content marks
    rw [ofNode, violations] at hnone
    rw [ofNode, check, hnone] at h
    cases h
  | .branch container children, 0, h => by
    rw [ofNode, check] at h
    cases h
  | .branch container children, limit + 1, h => by
    rw [ofNode, check, startViolations_map_int] at h
    exact child_of_checkChildren_ofNodes _ children limit h

theorem child_of_checkChildren_ofNodes {v : Violation} (parent : Container Json) :
    (nodes : List Node) → (limit : Nat) →
    checkChildren limit parent (ofNodes nodes) = .error (.violation v) →
    ∃ parent found, v = .child parent found
  | [], _, h => by
    rw [ofNodes, checkChildren] at h
    cases h
  | child :: rest, limit, h => by
    rw [ofNodes, checkChildren] at h
    split at h
    · cases hchild : check limit (ofNode child) with
      | error e =>
        rw [hchild] at h
        cases h
        exact child_of_check_ofNode child limit hchild
      | ok u =>
        rw [hchild] at h
        exact child_of_checkChildren_ofNodes parent rest limit h
    · cases h
      exact ⟨_, _, rfl⟩

end

end Vitae.Draft
