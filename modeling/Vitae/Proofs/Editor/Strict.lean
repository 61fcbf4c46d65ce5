import Vitae.Proofs.Editor.Grammar
import Vitae.Proofs.Json.RoundTrip

/-!
# Strict reading

Strict reading takes exactly the documents of the grammar, and what it makes of them is what lenient
reading makes of them.
-/

namespace Vitae

namespace Editor

/-! ### What is accepted -/

theorem isMark_of_forall₂ {items : List Json} {marks : List Mark}
    (h : List.Forall₂ (decodeMarkStrict · = .ok ·) items marks) : ∀ item ∈ items, IsMark item := by
  induction h with
  | nil => simp
  | cons hmark _ ih => exact List.forall_mem_cons.2 ⟨isMark_iff.2 ⟨_, hmark⟩, ih⟩

mutual

/-- A value that strict reading makes a node in its place of is in the grammar. -/
theorem belongs_of_decodeStrict : (node : Node) → {place : ChildKind} → {value : Json} →
    decodeStrict value = .ok node → (Draft.ofNode node).WellPlaced place → Belongs place value
  | .text content marks, place, value, h, hplaced => by
    obtain ⟨members, rfl, hstands⟩ := standsFor_of_decodeStrict h
    cases hstands with
    | text htype hcontent hlists hmarks =>
      cases place with
      | text => exact .text htype hcontent hlists (isMark_of_forall₂ hmarks)
      | block => cases hplaced.1
      | item => cases hplaced.1
  | .branch container children, place, value, h, hplaced => by
    obtain ⟨members, rfl, hstands⟩ := standsFor_of_decodeStrict h
    cases hstands with
    | branch htype hstart hlists hitems =>
      have hinside := belongs_of_forall₂ children hitems
        (Draft.violations_branch_eq_nil_iff.1 hplaced.2)
      have hadmits := hplaced.1
      -- The place is the one where such a container may stand; a document may stand nowhere.
      cases container with
      | doc => cases place <;> cases hadmits
      | paragraph =>
        cases place with
        | block => exact .paragraph htype hlists hinside
        | _ => cases hadmits
      | bulletList =>
        cases place with
        | block => exact .bulletList htype hlists hinside
        | _ => cases hadmits
      | orderedList start =>
        cases place with
        | block => exact .orderedList htype (hasStart_iff.2 ⟨start, hstart start rfl⟩) hlists hinside
        | _ => cases hadmits
      | listItem =>
        cases place with
        | item => exact .listItem htype hlists hinside
        | _ => cases hadmits

theorem belongs_of_forall₂ : (nodes : List Node) → {place : ChildKind} → {items : List Json} →
    List.Forall₂ (decodeStrict · = .ok ·) items nodes →
    (∀ node ∈ nodes, (Draft.ofNode node).WellPlaced place) → ∀ item ∈ items, Belongs place item
  | [], place, items, h, _ => by
    rw [List.forall₂_nil_right_iff.1 h]
    simp
  | node :: rest, place, items, h, hplaced => by
    obtain ⟨item, others, hitem, hothers, rfl⟩ := List.forall₂_cons_right_iff.1 h
    have hfirst := belongs_of_decodeStrict node hitem (hplaced node (List.mem_cons_self ..))
    have hrest := belongs_of_forall₂ rest hothers fun n hn => hplaced n (List.mem_cons_of_mem _ hn)
    exact List.forall_mem_cons.2 ⟨hfirst, hrest⟩

end

theorem exists_forall₂ {α β : Type} {r : α → β → Prop} {p : β → Prop} {as : List α}
    (h : ∀ a ∈ as, ∃ b, r a b ∧ p b) : ∃ bs, List.Forall₂ r as bs ∧ ∀ b ∈ bs, p b := by
  induction as with
  | nil => exact ⟨[], .nil, by simp⟩
  | cons a rest ih =>
    obtain ⟨⟨b, hb, hp⟩, hrest⟩ := List.forall_mem_cons.1 h
    obtain ⟨bs, hbs, hall⟩ := ih hrest
    exact ⟨b :: bs, .cons hb hbs, List.forall_mem_cons.2 ⟨hp, hall⟩⟩

theorem exists_branch {members : List (String × Json)} {items : List Json}
    (container : Container Int) (htype : HasType members container.tag)
    (hstart : ∀ n, container = .orderedList n → startOf members = .int n)
    (hlists : Lists members "content" items)
    (hitems : ∀ item ∈ items, ∃ node, decodeStrict item = .ok node ∧
      (Draft.ofNode node).WellPlaced container.childKind) :
    ∃ children, decodeStrict (.obj members) = .ok (.branch container children) ∧
      (Draft.ofNode (.branch container children)).violations = [] := by
  obtain ⟨children, hchildren, hplaced⟩ := exists_forall₂ hitems
  exact ⟨children, decodeStrict_eq_ok_iff.2 (.branch htype hstart hlists hchildren),
    Draft.violations_branch_eq_nil_iff.2 hplaced⟩

/-- Strict reading makes a node in its place of a value in the grammar. -/
theorem exists_of_belongs {place : ChildKind} {value : Json} (h : Belongs place value) :
    ∃ node, decodeStrict value = .ok node ∧ (Draft.ofNode node).WellPlaced place := by
  induction h with
  | @text members content items htype hcontent hlists hmarks =>
    have hitems : ∀ item ∈ items, ∃ mark, decodeMarkStrict item = .ok mark ∧ True := fun item hitem =>
      (isMark_iff.1 (hmarks item hitem)).imp fun _ h => ⟨h, trivial⟩
    obtain ⟨marks, hall, _⟩ := exists_forall₂ hitems
    exact ⟨.text content marks, decodeStrict_eq_ok_iff.2 (.text htype hcontent hlists hall), rfl,
      Draft.violations_text content marks⟩
  | paragraph htype hlists _ ih =>
    obtain ⟨children, hread, hrules⟩ := exists_branch .paragraph htype (by simp) hlists ih
    exact ⟨_, hread, rfl, hrules⟩
  | bulletList htype hlists _ ih =>
    obtain ⟨children, hread, hrules⟩ := exists_branch .bulletList htype (by simp) hlists ih
    exact ⟨_, hread, rfl, hrules⟩
  | orderedList htype hstart hlists _ ih =>
    obtain ⟨n, hn⟩ := hasStart_iff.1 hstart
    obtain ⟨children, hread, hrules⟩ :=
      exists_branch (.orderedList n) htype (fun m hm => by cases hm; exact hn) hlists ih
    exact ⟨_, hread, rfl, hrules⟩
  | listItem htype hlists _ ih =>
    obtain ⟨children, hread, hrules⟩ := exists_branch .listItem htype (by simp) hlists ih
    exact ⟨_, hread, rfl, hrules⟩

theorem decodeDocStrict_eq_ok_iff {value : Json} {doc : Node} :
    decodeDocStrict value = .ok doc ↔
      ∃ members children, value = .obj members ∧ HasType members "doc" ∧
        decodeContentStrict members = .ok children ∧ Node.doc children = doc := by
  cases value with
  | obj members =>
    rw [decodeDocStrict]
    constructor
    · intro h
      split at h
      · rename_i htype
        obtain ⟨children, hchildren, rfl⟩ := map_eq_ok_iff.1 h
        exact ⟨members, children, rfl, fieldOf_eq_str_iff.1 htype, hchildren, rfl⟩
      · cases h
    · rintro ⟨_, children, hmembers, htype, hchildren, rfl⟩
      cases hmembers
      rw [fieldOf_eq_str_iff.2 htype, hchildren]
      rfl
  | _ => simp [decodeDocStrict]

/-- The documents of the grammar are what strict reading makes documents of that break no rule. -/
theorem isDocument_iff {value : Json} :
    IsDocument value ↔
      ∃ doc, decodeDocStrict value = .ok doc ∧ (Draft.ofNode doc).violations = [] := by
  constructor
  · rintro ⟨htype, hlists, hitems⟩
    obtain ⟨children, hchildren, hplaced⟩ := exists_forall₂ fun item hitem =>
      exists_of_belongs (hitems item hitem)
    have hcontent := decodeContentStrict_eq_ok_iff.2 ⟨_, hlists, hchildren⟩
    exact ⟨_, decodeDocStrict_eq_ok_iff.2 ⟨_, children, rfl, htype, hcontent, rfl⟩,
      Draft.violations_branch_eq_nil_iff.2 hplaced⟩
  · rintro ⟨doc, hread, hrules⟩
    obtain ⟨members, children, rfl, htype, hcontent, rfl⟩ := decodeDocStrict_eq_ok_iff.1 hread
    obtain ⟨items, hlists, hchildren⟩ := decodeContentStrict_eq_ok_iff.1 hcontent
    have hplaced := Draft.violations_branch_eq_nil_iff.1 hrules
    exact .doc htype hlists (belongs_of_forall₂ children hchildren hplaced)

/-! ### Lenient reading of what is accepted -/

mutual

theorem decode_of_decodeStrict : (node : Node) → {value : Json} → decodeStrict value = .ok node →
    decode value = some node
  | .text content marks, value, h => by
    obtain ⟨members, rfl, hstands⟩ := standsFor_of_decodeStrict h
    cases hstands with
    | text htype hcontent hlists hmarks =>
      rw [decode, nodeType?_eq_text_iff.2 (fieldOf_eq_str_iff.2 htype),
        fieldOf_eq_str_iff.2 hcontent, marksOf_of_lists hlists, filterMap_of_forall₂ hmarks]
      simp only [contentOf, Json.plain, String.ofList_toList]
  | .branch container children, value, h => by
    obtain ⟨members, rfl, hstands⟩ := standsFor_of_decodeStrict h
    cases hstands with
    | branch htype hstart hlists hitems =>
      have htag : fieldOf members "type" = .str (container.map fun _ => ()).tag := by
        rw [tag_map]
        exact fieldOf_eq_str_iff.2 htype
      rw [decode, nodeType?_eq_branch_iff.2 htag, decodeContent_of_lists hlists]
      simp only [decodeItems_of_forall₂ children hitems]
      cases container with
      | orderedList n => rw [hstart n rfl]; rfl
      | _ => rfl

theorem decodeItems_of_forall₂ : (nodes : List Node) → {items : List Json} →
    List.Forall₂ (decodeStrict · = .ok ·) items nodes → decodeItems items = nodes
  | [], items, h => by
    rw [List.forall₂_nil_right_iff.1 h, decodeItems]
  | node :: rest, items, h => by
    obtain ⟨item, others, hitem, hothers, rfl⟩ := List.forall₂_cons_right_iff.1 h
    rw [decodeItems, decode_of_decodeStrict node hitem]
    simp only [decodeItems_of_forall₂ rest hothers]

end

theorem decodeDoc_of_decodeDocStrict {value : Json} {doc : Node}
    (h : decodeDocStrict value = .ok doc) : decodeDoc value = doc := by
  obtain ⟨members, children, rfl, _, hcontent, rfl⟩ := decodeDocStrict_eq_ok_iff.1 h
  obtain ⟨items, hlists, hchildren⟩ := decodeContentStrict_eq_ok_iff.1 hcontent
  rw [decodeDoc, decodeContent_of_lists hlists, decodeItems_of_forall₂ children hchildren]

/-! ### Sources -/

theorem readStrict_eq_ok_iff {source : String} {doc : Node} :
    readStrict source = .ok doc ↔
      ∃ value, Json.read source = .ok value ∧ decodeDocStrict value = .ok doc ∧
        (Draft.ofNode doc).violations = [] ∧ doc.levels ≤ levelLimit := by
  rw [← Draft.levels_ofNode, ← Draft.check_eq_ok_iff_levels]
  constructor
  · intro h
    unfold readStrict at h
    split at h
    · cases h
    · rename_i value hvalue
      split at h
      · cases h
      · rename_i found hfound
        split at h
        · rename_i hcheck
          cases h
          exact ⟨value, hvalue, hfound, hcheck⟩
        · cases h
        · cases h
  · rintro ⟨value, hvalue, hdoc, hcheck⟩
    simp only [readStrict, hvalue, hdoc, hcheck]

theorem readLenient_of_readStrict {source : String} {doc : Node} (h : readStrict source = .ok doc) :
    readLenient source = .ok doc := by
  obtain ⟨value, hvalue, hdoc, _⟩ := readStrict_eq_ok_iff.1 h
  simp only [readLenient, hvalue, decodeDoc_of_decodeDocStrict hdoc]

theorem exists_readStrict_iff {source : String} :
    (∃ doc, readStrict source = .ok doc) ↔
      ∃ value, Json.read source = .ok value ∧ IsDocument value ∧
        (decodeDoc value).levels ≤ levelLimit := by
  constructor
  · rintro ⟨doc, h⟩
    obtain ⟨value, hvalue, hdoc, hrules, hlevels⟩ := readStrict_eq_ok_iff.1 h
    refine ⟨value, hvalue, isDocument_iff.2 ⟨doc, hdoc, hrules⟩, ?_⟩
    rw [decodeDoc_of_decodeDocStrict hdoc]
    exact hlevels
  · rintro ⟨value, hvalue, hgrammar, hlevels⟩
    obtain ⟨doc, hdoc, hrules⟩ := isDocument_iff.1 hgrammar
    rw [decodeDoc_of_decodeDocStrict hdoc] at hlevels
    exact ⟨doc, readStrict_eq_ok_iff.2 ⟨value, hvalue, hdoc, hrules, hlevels⟩⟩

end Editor

theorem Reader.read_tree_eq_ok_iff {o : Options} {source : String} {doc : Node} :
    (Reader.mk .tree o).read source = .ok doc ↔
      Editor.read (o.get "strict_mode").truthy source = .ok doc := by
  simp only [Reader.read, Reader.readBy]
  cases Editor.read (o.get "strict_mode").truthy source <;> simp

/-- Strict reading takes exactly the sources that decode to a document of the grammar with not too
many levels, and lenient reading makes the same document of them. -/
theorem readStrict_iff_grammar (strict lenient : Options) (source : String)
    (hstrict : (strict.get "strict_mode").truthy = true)
    (hlenient : (lenient.get "strict_mode").truthy = false) :
    ((∃ doc, (Reader.mk .tree strict).read source = .ok doc) ↔
      ∃ value, Json.read source = .ok value ∧ Editor.IsDocument value ∧
        (Editor.decodeDoc value).levels ≤ Editor.levelLimit) ∧
    ∀ doc, (Reader.mk .tree strict).read source = .ok doc →
      (Reader.mk .tree lenient).read source = .ok doc := by
  simp only [Reader.read_tree_eq_ok_iff, hstrict, hlenient]
  exact ⟨Editor.exists_readStrict_iff, fun _ => Editor.readLenient_of_readStrict⟩

namespace Editor

def looseList : Json :=
  .obj [("type", .str "orderedList"), ("attrs", .arr [.int 7]),
    ("content", .arr [.obj [("type", .str "listItem"), ("content", .null)]])]

def looseParagraph : Json :=
  .obj [("type", .str "paragraph"), ("content", .arr [.obj [("type", .str "text"),
    ("text", .str ""), ("marks", .arr [.obj [("type", .str "link"), ("attrs", .int 7)]])]])]

/-- Containers without content, attributes that are no objects and an empty text. -/
def looseValue : Json :=
  .obj [("content", .arr [looseList, looseParagraph, .obj [("type", .str "bulletList")]]),
    ("type", .str "doc")]

def looseSource : String := Json.write .line looseValue

theorem exact_looseValue : looseValue.Exact := by
  have hdigits : Json.intDigits 7 ≤ Json.digitLimit := by decide
  simp [looseValue, looseList, looseParagraph, Json.Exact, Json.ExactItems, Json.ExactMembers, hdigits]

theorem read_looseSource : Json.read looseSource = .ok looseValue := by
  have hline : Json.Layout.line.IsBlank := trivial
  exact Json.read_write hline exact_looseValue (by decide)

theorem isDocument_looseValue : IsDocument looseValue := by
  have hitem : Belongs .item (.obj [("type", .str "listItem"), ("content", .null)]) :=
    .listItem rfl (.null rfl) (by simp)
  have hlist : Belongs .block looseList :=
    .orderedList rfl (by rintro attrs start h; cases h) (.array rfl) (by simpa using hitem)
  have hmark : IsMark (.obj [("type", .str "link"), ("attrs", .int 7)]) := .mark (by simp) rfl
  have hparagraph : Belongs .block looseParagraph :=
    .paragraph rfl (.array rfl) (by simpa using .text rfl rfl (.array rfl) (by simpa using hmark))
  have hbullets : Belongs .block (.obj [("type", .str "bulletList")]) :=
    .bulletList rfl (.absent rfl) (by simp)
  exact .doc rfl (.array rfl) (by simpa using ⟨hlist, hparagraph, hbullets⟩)

end Editor

theorem readStrict_iff_grammar_loose :
    ∃ doc, (Reader.mk .tree ⟨.treeReader, [("strict_mode", .bool true)]⟩).read Editor.looseSource =
        .ok doc ∧
      (Reader.mk .tree (.default .treeReader)).read Editor.looseSource = .ok doc := by
  obtain ⟨haccepts, hagrees⟩ := readStrict_iff_grammar
    ⟨.treeReader, [("strict_mode", .bool true)]⟩ (.default .treeReader) Editor.looseSource rfl rfl
  obtain ⟨doc, hdoc⟩ := haccepts.2 ⟨Editor.looseValue, Editor.read_looseSource,
    Editor.isDocument_looseValue, by decide⟩
  exact ⟨doc, hdoc, hagrees doc hdoc⟩

end Vitae
