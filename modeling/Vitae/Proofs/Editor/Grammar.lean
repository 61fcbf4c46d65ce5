import Mathlib.Data.List.Forall2
import Vitae.Compile
import Vitae.Proofs.Rules
import Vitae.Proofs.Results

/-!
# The grammar of the editor's format

Which values are documents, told by their fields alone, and what strict reading makes of an object
with these fields.
-/

namespace Vitae.Editor

/-! ### The grammar -/

def HasType (members : List (String × Json)) (name : String) : Prop :=
  Json.member? members "type" = some (.str name)

/-- The items that a field lists: those of its array, or none if it is absent or null. -/
inductive Lists (members : List (String × Json)) (name : String) : List Json → Prop where
  | absent (h : Json.member? members name = none) : Lists members name []
  | null (h : Json.member? members name = some .null) : Lists members name []
  | array {items : List Json} (h : Json.member? members name = some (.arr items)) :
      Lists members name items

/-- Is the first number an integer, if the attributes are an object and have one? -/
def HasStart (members : List (String × Json)) : Prop :=
  ∀ attrs start, Json.member? members "attrs" = some (.obj attrs) →
    Json.member? attrs "start" = some start → ∃ n, start = .int n

inductive IsMark : Json → Prop where
  | mark {members : List (String × Json)} {name : String}
      (hname : name ∈ ["bold", "italic", "underline", "link"]) (htype : HasType members name) :
      IsMark (.obj members)

/-- The values that stand for blocks, for texts and for list items. -/
inductive Belongs : ChildKind → Json → Prop where
  | text {members : List (String × Json)} {content : String} {marks : List Json}
      (htype : HasType members "text")
      (hcontent : Json.member? members "text" = some (.str content))
      (hlists : Lists members "marks" marks) (hmarks : ∀ mark ∈ marks, IsMark mark) :
      Belongs .text (.obj members)
  | paragraph {members : List (String × Json)} {items : List Json}
      (htype : HasType members "paragraph") (hlists : Lists members "content" items)
      (hitems : ∀ item ∈ items, Belongs .text item) : Belongs .block (.obj members)
  | bulletList {members : List (String × Json)} {items : List Json}
      (htype : HasType members "bulletList") (hlists : Lists members "content" items)
      (hitems : ∀ item ∈ items, Belongs .item item) : Belongs .block (.obj members)
  | orderedList {members : List (String × Json)} {items : List Json}
      (htype : HasType members "orderedList") (hstart : HasStart members)
      (hlists : Lists members "content" items) (hitems : ∀ item ∈ items, Belongs .item item) :
      Belongs .block (.obj members)
  | listItem {members : List (String × Json)} {items : List Json}
      (htype : HasType members "listItem") (hlists : Lists members "content" items)
      (hitems : ∀ item ∈ items, Belongs .block item) : Belongs .item (.obj members)

inductive IsDocument : Json → Prop where
  | doc {members : List (String × Json)} {items : List Json} (htype : HasType members "doc")
      (hlists : Lists members "content" items) (hitems : ∀ item ∈ items, Belongs .block item) :
      IsDocument (.obj members)

/-! ### Fields -/

theorem fieldOf_eq_str_iff {members : List (String × Json)} {name s : String} :
    fieldOf members name = .str s ↔ Json.member? members name = some (.str s) := by
  unfold fieldOf
  cases Json.member? members name <;> simp

theorem lists_iff {members : List (String × Json)} {name : String} {items : List Json} :
    Lists members name items ↔
      fieldOf members name = .arr items ∨ (fieldOf members name = .null ∧ items = []) := by
  unfold fieldOf
  constructor
  · rintro (h | h | h)
    · exact Or.inr ⟨by rw [h]; rfl, rfl⟩
    · exact Or.inr ⟨by rw [h]; rfl, rfl⟩
    · exact Or.inl (by rw [h]; rfl)
  · intro h
    cases hmember : Json.member? members name with
    | none =>
      rw [hmember] at h
      rcases h with h | ⟨_, rfl⟩
      · cases h
      · exact .absent hmember
    | some value =>
      rw [hmember, Option.getD_some] at h
      rcases h with rfl | ⟨rfl, rfl⟩
      · exact .array hmember
      · exact .null hmember

/-- The first number is an integer if there is none at all: then it is one. -/
theorem hasStart_iff {members : List (String × Json)} :
    HasStart members ↔ ∃ n, startOf members = .int n := by
  unfold HasStart startOf fieldOf
  constructor
  · intro h
    cases hattrs : Json.member? members "attrs" with
    | none => exact ⟨1, rfl⟩
    | some value =>
      cases value with
      | obj attrs =>
        cases hstart : Json.member? attrs "start" with
        | none => exact ⟨1, by rw [Option.getD_some, Json.get?, hstart]; rfl⟩
        | some start =>
          obtain ⟨n, rfl⟩ := h attrs start hattrs hstart
          exact ⟨n, by rw [Option.getD_some, Json.get?, hstart]; rfl⟩
      | _ => exact ⟨1, rfl⟩
  · rintro ⟨n, h⟩ attrs start hattrs hstart
    rw [hattrs, Option.getD_some, Json.get?, hstart] at h
    exact ⟨n, h⟩

/-- A search that ends at the first member of a name reads the field of that name. -/
theorem search_eq {α : Type} (search : List (String × Json) → α) (read : Json → α) {name : String}
    (hnil : search [] = read .null)
    (hcons : ∀ n value rest,
      search ((n, value) :: rest) = if n == name then read value else search rest)
    (members : List (String × Json)) : search members = read (fieldOf members name) := by
  induction members with
  | nil => exact hnil
  | cons member rest ih =>
    obtain ⟨n, value⟩ := member
    by_cases h : (n == name) = true
    · simp [hcons, fieldOf, Json.member?, h]
    · simpa [hcons, fieldOf, Json.member?, h] using ih

/-! ### Reading lists -/

/-- Reading a field strictly that lists items is reading these. -/
theorem listed_eq_ok_iff {α : Type} {read : Json → Except Defect (List α)}
    {readItems : List Json → Except Defect (List α)} (hnull : read .null = readItems [])
    (harr : ∀ items, read (.arr items) = readItems items)
    (hother : ∀ value found, read value = .ok found → value = .null ∨ ∃ items, value = .arr items)
    {members : List (String × Json)} {name : String} {found : List α} :
    read (fieldOf members name) = .ok found ↔
      ∃ items, Lists members name items ∧ readItems items = .ok found := by
  constructor
  · intro h
    rcases hother _ _ h with hfield | ⟨items, hfield⟩
    · exact ⟨[], lists_iff.2 (Or.inr ⟨hfield, rfl⟩), by rw [← hnull, ← hfield]; exact h⟩
    · exact ⟨items, lists_iff.2 (Or.inl hfield), by rw [← harr, ← hfield]; exact h⟩
  · rintro ⟨items, hlists, h⟩
    rcases lists_iff.1 hlists with hfield | ⟨hfield, rfl⟩
    · rw [hfield, harr, h]
    · rw [hfield, hnull, h]

/-- Reading items one after the other gives one result for each. -/
theorem items_eq_ok_iff {α : Type} {readItem : Json → Except Defect α}
    {readItems : List Json → Except Defect (List α)} (hnil : readItems [] = .ok [])
    (hcons : ∀ item rest, readItems (item :: rest) =
      (readItem item).bind fun found => (readItems rest).map (found :: ·))
    {items : List Json} {found : List α} :
    readItems items = .ok found ↔ List.Forall₂ (readItem · = .ok ·) items found := by
  induction items generalizing found with
  | nil =>
    rw [hnil, List.forall₂_nil_left_iff, Except.ok.injEq]
    exact eq_comm
  | cons item rest ih =>
    rw [hcons, List.forall₂_cons_left_iff]
    cases hitem : readItem item with
    | error e => simp [Except.bind]
    | ok first =>
      rw [Except.bind, map_eq_ok_iff]
      constructor
      · rintro ⟨others, hothers, rfl⟩
        exact ⟨first, others, rfl, ih.1 hothers, rfl⟩
      · rintro ⟨first', others, hfirst, hothers, rfl⟩
        rw [Except.ok.injEq] at hfirst
        subst hfirst
        exact ⟨others, ih.2 hothers, rfl⟩

theorem decodeItemsStrict_eq_ok_iff {items : List Json} {nodes : List Node} :
    decodeItemsStrict items = .ok nodes ↔ List.Forall₂ (decodeStrict · = .ok ·) items nodes := by
  refine items_eq_ok_iff (by rw [decodeItemsStrict]) fun item rest => ?_
  rw [decodeItemsStrict]
  cases decodeStrict item <;> rfl

theorem decodeMarksStrict_eq_ok_iff {items : List Json} {marks : List Mark} :
    decodeMarksStrict items = .ok marks ↔ List.Forall₂ (decodeMarkStrict · = .ok ·) items marks := by
  refine items_eq_ok_iff (by rw [decodeMarksStrict]) fun item rest => ?_
  rw [decodeMarksStrict]
  cases decodeMarkStrict item <;> rfl

theorem decodeContentStrict_eq_ok_iff {members : List (String × Json)} {nodes : List Node} :
    decodeContentStrict members = .ok nodes ↔
      ∃ items, Lists members "content" items ∧
        List.Forall₂ (decodeStrict · = .ok ·) items nodes := by
  rw [search_eq decodeContentStrict decodeArrayStrict rfl (fun _ _ _ => rfl) members]
  simp only [← decodeItemsStrict_eq_ok_iff]
  refine listed_eq_ok_iff rfl (fun _ => rfl) fun value found h => ?_
  cases value with
  | null => exact Or.inl rfl
  | arr items => exact Or.inr ⟨items, rfl⟩
  | _ => cases h

theorem marksStrict_eq_ok_iff {members : List (String × Json)} {marks : List Mark} :
    marksStrict (fieldOf members "marks") = .ok marks ↔
      ∃ items, Lists members "marks" items ∧
        List.Forall₂ (decodeMarkStrict · = .ok ·) items marks := by
  simp only [← decodeMarksStrict_eq_ok_iff]
  refine listed_eq_ok_iff rfl (fun _ => rfl) fun value found h => ?_
  cases value with
  | null => exact Or.inl rfl
  | arr items => exact Or.inr ⟨items, rfl⟩
  | _ => cases h

theorem decodeContent_of_lists {members : List (String × Json)} {items : List Json}
    (h : Lists members "content" items) : decodeContent members = decodeItems items := by
  rw [search_eq decodeContent decodeArray rfl (fun _ _ _ => rfl) members]
  rcases lists_iff.1 h with hfield | ⟨hfield, rfl⟩ <;> rw [hfield] <;> rfl

theorem marksOf_of_lists {members : List (String × Json)} {items : List Json}
    (h : Lists members "marks" items) :
    marksOf (fieldOf members "marks") = items.filterMap decodeMark := by
  rcases lists_iff.1 h with hfield | ⟨hfield, rfl⟩ <;> rw [hfield] <;> rfl

/-! ### Marks -/

theorem decodeMarkStrict_eq_ok_iff {value : Json} {mark : Mark} :
    decodeMarkStrict value = .ok mark ↔ decodeMark value = some mark := by
  cases value with
  | obj members =>
    rw [decodeMarkStrict, decodeMark]
    cases markOf? members <;> simp
  | _ => simp [decodeMarkStrict, decodeMark]

theorem isMark_iff {value : Json} : IsMark value ↔ ∃ mark, decodeMarkStrict value = .ok mark := by
  simp only [decodeMarkStrict_eq_ok_iff]
  constructor
  · rintro ⟨hname, htype⟩
    have hfield := fieldOf_eq_str_iff.2 htype
    simp only [List.mem_cons, List.not_mem_nil, or_false] at hname
    rcases hname with rfl | rfl | rfl | rfl <;> simp [decodeMark, markOf?, hfield]
  · rintro ⟨mark, h⟩
    cases value with
    | obj members =>
      rw [decodeMark, markOf?] at h
      -- The type's name is one of the four wherever a mark comes out.
      split at h
      · rename_i htype
        exact ⟨.head _, fieldOf_eq_str_iff.1 htype⟩
      · rename_i htype
        exact ⟨.tail _ (.head _), fieldOf_eq_str_iff.1 htype⟩
      · rename_i htype
        exact ⟨.tail _ (.tail _ (.head _)), fieldOf_eq_str_iff.1 htype⟩
      · rename_i htype
        exact ⟨.tail _ (.tail _ (.tail _ (.head _))), fieldOf_eq_str_iff.1 htype⟩
      · cases h
    | _ => cases h

theorem filterMap_of_forall₂ {items : List Json} {marks : List Mark}
    (h : List.Forall₂ (decodeMarkStrict · = .ok ·) items marks) :
    items.filterMap decodeMark = marks := by
  induction h with
  | nil => rfl
  | cons hmark _ ih => rw [List.filterMap_cons, decodeMarkStrict_eq_ok_iff.1 hmark, ih]

/-! ### Nodes -/

theorem nodeType?_eq_text_iff {value : Json} : nodeType? value = some .text ↔ value = .str "text" := by
  constructor
  · intro h
    unfold nodeType? at h
    split at h <;> cases h
    rfl
  · rintro rfl
    rfl

theorem nodeType?_eq_branch_iff {value : Json} {container : Container Unit} :
    nodeType? value = some (.branch container) ↔ value = .str container.tag := by
  constructor
  · intro h
    unfold nodeType? at h
    split at h <;> cases h <;> rfl
  · rintro rfl
    cases container <;> rfl

theorem containerStrict_eq_ok_iff {start : Json} {kind : Container Unit}
    {container : Container Int} :
    containerStrict start kind = .ok container ↔
      container.map (fun _ => ()) = kind ∧ ∀ n, container = .orderedList n → start = .int n := by
  cases kind <;> cases container <;> cases start <;>
    simp [containerStrict, Container.map, eq_comm]

/-- What strict reading makes of an object: a text with its marks, or a container with what stands
under it. -/
inductive StandsFor (members : List (String × Json)) : Node → Prop where
  | text {content : String} {items : List Json} {marks : List Mark} (htype : HasType members "text")
      (hcontent : Json.member? members "text" = some (.str content))
      (hlists : Lists members "marks" items)
      (hmarks : List.Forall₂ (decodeMarkStrict · = .ok ·) items marks) :
      StandsFor members (.text content marks)
  | branch {container : Container Int} {items : List Json} {children : List Node}
      (htype : HasType members container.tag)
      (hstart : ∀ n, container = .orderedList n → startOf members = .int n)
      (hlists : Lists members "content" items)
      (hitems : List.Forall₂ (decodeStrict · = .ok ·) items children) :
      StandsFor members (.branch container children)

theorem textStrict_eq_ok_iff {members : List (String × Json)} {node : Node} :
    textStrict members = .ok node ↔
      ∃ content marks, fieldOf members "text" = .str content ∧
        marksStrict (fieldOf members "marks") = .ok marks ∧ Node.text content marks = node := by
  rw [textStrict]
  cases hfield : fieldOf members "text" with
  | str content => simp [contentStrict, map_eq_ok_iff]
  | _ => simp [contentStrict]

theorem tag_map {σ τ : Type} (f : σ → τ) (container : Container σ) :
    (container.map f).tag = container.tag := by
  cases container <;> rfl

theorem decodeStrict_eq_ok_iff {members : List (String × Json)} {node : Node} :
    decodeStrict (.obj members) = .ok node ↔ StandsFor members node := by
  rw [decodeStrict]
  constructor
  · intro h
    cases htype : nodeType? (fieldOf members "type") with
    | none =>
      rw [htype] at h
      cases h
    | some type =>
      rw [htype] at h
      cases type with
      | text =>
        obtain ⟨content, marks, hcontent, hmarks, rfl⟩ := textStrict_eq_ok_iff.1 h
        obtain ⟨items, hlists, hall⟩ := marksStrict_eq_ok_iff.1 hmarks
        exact .text (fieldOf_eq_str_iff.1 (nodeType?_eq_text_iff.1 htype))
          (fieldOf_eq_str_iff.1 hcontent) hlists hall
      | branch kind =>
        cases hchildren : decodeContentStrict members with
        | error e =>
          rw [hchildren] at h
          cases h
        | ok children =>
          rw [hchildren] at h
          obtain ⟨container, hcontainer, rfl⟩ := map_eq_ok_iff.1 h
          obtain ⟨rfl, hstart⟩ := containerStrict_eq_ok_iff.1 hcontainer
          obtain ⟨items, hlists, hall⟩ := decodeContentStrict_eq_ok_iff.1 hchildren
          have htag := nodeType?_eq_branch_iff.1 htype
          rw [tag_map] at htag
          exact .branch (fieldOf_eq_str_iff.1 htag) hstart hlists hall
  · intro h
    cases h with
    | text htype hcontent hlists hmarks =>
      rw [nodeType?_eq_text_iff.2 (fieldOf_eq_str_iff.2 htype)]
      exact textStrict_eq_ok_iff.2 ⟨_, _, fieldOf_eq_str_iff.2 hcontent,
        marksStrict_eq_ok_iff.2 ⟨_, hlists, hmarks⟩, rfl⟩
    | @branch container items children htype hstart hlists hitems =>
      have htag : fieldOf members "type" = .str (container.map fun _ => ()).tag := by
        rw [tag_map]
        exact fieldOf_eq_str_iff.2 htype
      rw [nodeType?_eq_branch_iff.2 htag, decodeContentStrict_eq_ok_iff.2 ⟨_, hlists, hitems⟩]
      exact map_eq_ok_iff.2 ⟨container, containerStrict_eq_ok_iff.2 ⟨rfl, hstart⟩, rfl⟩

theorem standsFor_of_decodeStrict {value : Json} {node : Node} (h : decodeStrict value = .ok node) :
    ∃ members, value = .obj members ∧ StandsFor members node := by
  cases value with
  | obj members => exact ⟨members, rfl, decodeStrict_eq_ok_iff.1 h⟩
  | _ => cases h

end Vitae.Editor
