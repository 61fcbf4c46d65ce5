import Vitae.Compile
import Vitae.Proofs.Json.RoundTrip
import Vitae.Proofs.Rules

/-!
# Documents through the editor's format

A document that was written in the editor's format is read back as the same document: leniently
whatever its structure, strictly if it breaks no structural rule. On one line or indented makes no
difference.
-/

namespace Vitae

/-! ### Values and documents -/

namespace Editor

theorem decodeMark_encodeMark (mark : Mark) : decodeMark (encodeMark mark) = some mark := by
  cases mark <;>
    simp [encodeMark, decodeMark, markOf?, fieldOf, Json.field, Json.get?, Json.member?, Mark.tag]

theorem filterMap_decodeMark (marks : List Mark) :
    (marks.map encodeMark).filterMap decodeMark = marks := by
  induction marks with
  | nil => rfl
  | cons mark rest ih => simp only [List.map_cons, List.filterMap_cons, decodeMark_encodeMark, ih]

mutual

/-- A document's value stands for it, whatever its structure. -/
theorem decode_encode : (node : Node) → decode (encode node) = some node
  | .text content [] => by
    simp [encode, decode, nodeType?, fieldOf, Json.member?, contentOf, Json.plain, marksOf]
  | .text content (mark :: marks) => by
    have hmarks := filterMap_decodeMark (mark :: marks)
    simp [encode, decode, nodeType?, fieldOf, Json.member?, contentOf, Json.plain, marksOf] at hmarks ⊢
    exact hmarks
  | .branch container children => by
    have hchildren := decodeItems_encodeAll children
    cases container <;>
      simp [encode, decode, nodeType?, fieldOf, Json.member?, Json.get?, Container.tag,
        containerOf, Container.map, startOf, decodeContent, decodeArray, hchildren]

theorem decodeItems_encodeAll : (nodes : List Node) → decodeItems (encodeAll nodes) = nodes
  | [] => rfl
  | child :: rest => by
    rw [encodeAll, decodeItems, decode_encode child]
    simp only [decodeItems_encodeAll rest]

end

theorem decodeDoc_encode (children : List Node) :
    decodeDoc (encode (Node.doc children)) = Node.doc children := by
  simp [Node.doc, encode, decodeDoc, decodeContent, decodeArray, decodeItems_encodeAll]

theorem decodeMarkStrict_encodeMark (mark : Mark) : decodeMarkStrict (encodeMark mark) = .ok mark := by
  cases mark <;>
    simp [encodeMark, decodeMarkStrict, markOf?, fieldOf, Json.field, Json.get?, Json.member?, Mark.tag]

theorem decodeMarksStrict_map (marks : List Mark) :
    decodeMarksStrict (marks.map encodeMark) = .ok marks := by
  induction marks with
  | nil => rfl
  | cons mark rest ih =>
    simp only [List.map_cons, decodeMarksStrict, decodeMarkStrict_encodeMark, ih, Except.map]

mutual

theorem decodeStrict_encode : (node : Node) → decodeStrict (encode node) = .ok node
  | .text content [] => by
    simp [encode, decodeStrict, nodeType?, fieldOf, Json.member?, textStrict, contentStrict,
      marksStrict, Except.map]
  | .text content (mark :: marks) => by
    have hmarks := decodeMarksStrict_map (mark :: marks)
    simp [encode, decodeStrict, nodeType?, fieldOf, Json.member?, textStrict, contentStrict,
      marksStrict] at hmarks ⊢
    rw [hmarks]
    rfl
  | .branch container children => by
    have hchildren := decodeItemsStrict_encodeAll children
    cases container <;>
      simp [encode, decodeStrict, nodeType?, fieldOf, Json.member?, Json.get?, Container.tag,
        containerStrict, startOf, decodeContentStrict, decodeArrayStrict, hchildren, Except.map]

theorem decodeItemsStrict_encodeAll : (nodes : List Node) →
    decodeItemsStrict (encodeAll nodes) = .ok nodes
  | [] => rfl
  | child :: rest => by
    rw [encodeAll, decodeItemsStrict, decodeStrict_encode child]
    simp only [decodeItemsStrict_encodeAll rest, Except.map]

end

theorem decodeDocStrict_encode (children : List Node) :
    decodeDocStrict (encode (Node.doc children)) = .ok (Node.doc children) := by
  simp [Node.doc, encode, decodeDocStrict, fieldOf, Json.member?, Container.tag, decodeContentStrict,
    decodeArrayStrict, decodeItemsStrict_encodeAll, Except.map]

/-! ### What the text keeps -/

end Editor

/-- Documents that the text of the editor's format keeps: link attributes are null or strings, and
first numbers have no more digits than are read. -/
def Node.Storable (node : Node) : Prop :=
  (∀ mark ∈ node.marks, mark.HasAttributes) ∧
    ∀ start ∈ node.starts, Json.intDigits start ≤ Json.digitLimit

theorem Node.Storable.children {container : Container Int} {nodes : List Node}
    (h : (Node.branch container nodes).Storable) : ∀ child ∈ nodes, child.Storable := by
  intro child hchild
  refine ⟨fun mark hmark => h.1 mark ?_, fun start hstart => h.2 start ?_⟩
  · rw [Node.marks_branch]
    exact List.mem_flatMap.2 ⟨child, hchild, hmark⟩
  · exact Node.mem_starts_branch hchild hstart

namespace Editor

theorem exact_attribute {value : Json} (h : value.IsAttribute) : value.Exact := by
  rcases h with rfl | ⟨s, rfl⟩ <;> trivial

theorem exact_encodeMark {mark : Mark} (h : mark.HasAttributes) : (encodeMark mark).Exact := by
  cases mark with
  | link href target className =>
    obtain ⟨hhref, htarget, hclass⟩ := h
    simp [encodeMark, Json.Exact, Json.ExactMembers, exact_attribute hhref, exact_attribute htarget,
      exact_attribute hclass]
  | _ => simp [encodeMark, Json.Exact, Json.ExactMembers]

theorem exactItems_encodeMarks {marks : List Mark} (h : ∀ mark ∈ marks, mark.HasAttributes) :
    Json.ExactItems (marks.map encodeMark) := by
  induction marks with
  | nil => trivial
  | cons mark rest ih =>
    exact ⟨exact_encodeMark (h mark (List.mem_cons_self ..)),
      ih fun m hm => h m (List.mem_cons_of_mem _ hm)⟩

mutual

theorem exact_encode : (node : Node) → node.Storable → (encode node).Exact
  | .text content [], _ => by
    simp [encode, Json.Exact, Json.ExactMembers]
  | .text content (mark :: marks), h => by
    have hattributes : ∀ m ∈ mark :: marks, m.HasAttributes := fun m hm =>
      h.1 m (by simpa [Node.marks, Node.leaves] using hm)
    have hmarks := exactItems_encodeMarks hattributes
    simp only [encode, Json.Exact, Json.ExactMembers]
    simpa using hmarks
  | .branch container children, h => by
    have hchildren := exactItems_encodeAll children h.children
    cases container with
    | orderedList start =>
      have hstart := h.2 start (by simp [Node.starts])
      simp [encode, Json.Exact, Json.ExactMembers, hchildren, hstart]
    | _ => simp [encode, Json.Exact, Json.ExactMembers, hchildren]

theorem exactItems_encodeAll : (nodes : List Node) → (∀ child ∈ nodes, child.Storable) →
    Json.ExactItems (encodeAll nodes)
  | [], _ => trivial
  | child :: rest, h =>
    ⟨exact_encode child (h child (List.mem_cons_self ..)),
      exactItems_encodeAll rest fun node hnode => h node (List.mem_cons_of_mem _ hnode)⟩

end

theorem write?_of_storable {node : Node} (h : node.Storable) (layout : Json.Layout) :
    write? layout node = some (write layout node) := by
  rw [write?, Json.write?, if_pos (Json.isJson_of_exact _ (exact_encode node h))]
  rfl

/-! ### Depth -/

theorem depth_encodeMark_le {mark : Mark} (h : mark.HasAttributes) : (encodeMark mark).depth ≤ 2 := by
  have hattribute : ∀ value : Json, value.IsAttribute → value.depth = 0 := by
    rintro value (rfl | ⟨s, rfl⟩) <;> rfl
  cases mark with
  | link href target className =>
    obtain ⟨hhref, htarget, hclass⟩ := h
    simp [encodeMark, Json.depth, Json.membersDepth, hattribute _ hhref, hattribute _ htarget,
      hattribute _ hclass]
  | _ => simp [encodeMark, Json.depth, Json.membersDepth]

theorem itemsDepth_encodeMarks_le {marks : List Mark} (h : ∀ mark ∈ marks, mark.HasAttributes) :
    Json.itemsDepth (marks.map encodeMark) ≤ 2 := by
  induction marks with
  | nil => simp [Json.itemsDepth]
  | cons mark rest ih =>
    have hmark := depth_encodeMark_le (h mark (List.mem_cons_self ..))
    have hrest := ih fun m hm => h m (List.mem_cons_of_mem _ hm)
    simp only [List.map_cons, Json.itemsDepth]
    omega

mutual

/-- A level of a document takes an object and an array; the marks of a leaf take two more. -/
theorem depth_encode_le : (node : Node) → node.Storable →
    (encode node).depth ≤ 2 * node.levels + 2
  | .text content [], _ => by
    simp [encode, Json.depth, Json.membersDepth, Node.levels]
  | .text content (mark :: marks), h => by
    have hattributes : ∀ m ∈ mark :: marks, m.HasAttributes := fun m hm =>
      h.1 m (by simpa [Node.marks, Node.leaves] using hm)
    have hmarks := itemsDepth_encodeMarks_le hattributes
    simp only [encode, Json.depth, Json.membersDepth, Node.levels]
    omega
  | .branch container children, h => by
    have hchildren := itemsDepth_encodeAll_le children h.children
    cases container <;> simp only [encode, Json.depth, Json.membersDepth, Node.levels] <;> omega

theorem itemsDepth_encodeAll_le : (nodes : List Node) → (∀ child ∈ nodes, child.Storable) →
    Json.itemsDepth (encodeAll nodes) ≤ 2 * Node.allLevels nodes + 2
  | [], _ => by simp [encodeAll, Json.itemsDepth]
  | child :: rest, h => by
    have hchild := depth_encode_le child (h child (List.mem_cons_self ..))
    have hrest := itemsDepth_encodeAll_le rest fun node hnode => h node (List.mem_cons_of_mem _ hnode)
    simp only [encodeAll, Json.itemsDepth, Node.allLevels]
    omega

end

/-! ### Texts and documents -/

theorem readLenient_write {layout : Json.Layout} (hlayout : layout.IsBlank) {children : List Node}
    (hdoc : (Node.doc children).Storable)
    (hdepth : (encode (Node.doc children)).depth ≤ Json.depthLimit) :
    readLenient (write layout (Node.doc children)) = .ok (Node.doc children) := by
  rw [readLenient, write, Json.read_write hlayout (exact_encode _ hdoc) hdepth]
  simp only [decodeDoc_encode]

theorem readStrict_write {layout : Json.Layout} (hlayout : layout.IsBlank) {children : List Node}
    (hdoc : (Node.doc children).Storable)
    (hdepth : (encode (Node.doc children)).depth ≤ Json.depthLimit)
    (hvalid : (Draft.ofNode (Node.doc children)).violations = [])
    (hlevels : (Node.doc children).levels ≤ levelLimit) :
    readStrict (write layout (Node.doc children)) = .ok (Node.doc children) := by
  have hcheck : Draft.check levelLimit (Draft.ofNode (Node.doc children)) = .ok () :=
    (Draft.check_eq_ok_iff (by rw [Draft.levels_ofNode]; exact hlevels)).2 hvalid
  rw [readStrict, write, Json.read_write hlayout (exact_encode _ hdoc) hdepth]
  simp only [decodeDocStrict_encode, hcheck]

/-- Levels that strict reading takes are levels that the text's values take too. -/
theorem depth_encode_le_depthLimit {node : Node} (hnode : node.Storable)
    (hlevels : node.levels ≤ levelLimit) : (encode node).depth ≤ Json.depthLimit := by
  have h := depth_encode_le node hnode
  simp only [levelLimit] at hlevels
  simp only [Json.depthLimit]
  omega

end Editor

/-! ### Readers and writers -/

/-- No indentation, or one of so many columns; texts of any size are taken to exist. -/
def Options.HasColumns (o : Options) : Prop :=
  o.get "indent" = .null ∨ ∃ columns : Nat, o.get "indent" = .int columns

theorem Options.HasColumns.layout {o : Options} (h : o.HasColumns) :
    ∃ layout, layoutOf (o.get "indent") = .ok layout ∧ layout.IsBlank := by
  rcases h with h | ⟨columns, h⟩
  · exact ⟨.line, by rw [h]; rfl, trivial⟩
  · refine ⟨.indented (List.replicate columns ' '), by rw [h]; rfl, ?_⟩
    intro c hc
    rw [List.eq_of_mem_replicate hc]
    rfl

theorem generate_tree {o : Options} {layout : Json.Layout}
    (h : layoutOf (o.get "indent") = .ok layout) (context : Json) {node : Node}
    (hnode : node.Storable) :
    (Writer.mk .tree o).generate context node = .ok (Editor.write layout node) := by
  simp only [Writer.generate, Writer.write, h, Editor.write?_of_storable hnode, bind, Except.bind,
    Option.elim]

theorem read_tree {r : Options} {text : String} {doc : Node}
    (h : Editor.read (r.get "strict_mode").truthy text = .ok doc) :
    (Reader.mk .tree r).read text = .ok doc := by
  simp only [Reader.read, Reader.readBy, h]

/-- What the writer of the editor's format makes of a document is read back as that document:
leniently whatever stands where in it, strictly if it breaks no structural rule. -/
theorem read_generate_tree (children : List Node) (o : Options) (context : Json)
    (hindent : o.HasColumns) (hdoc : (Node.doc children).Storable)
    (hdepth : (Editor.encode (Node.doc children)).depth ≤ Json.depthLimit) :
    ∃ text, (Writer.mk .tree o).generate context (Node.doc children) = .ok text ∧
      (∀ r : Options, (r.get "strict_mode").truthy = false →
        (Reader.mk .tree r).read text = .ok (Node.doc children)) ∧
      ((Draft.ofNode (Node.doc children)).violations = [] →
        (Node.doc children).levels ≤ Editor.levelLimit →
        ∀ r : Options, (r.get "strict_mode").truthy = true →
          (Reader.mk .tree r).read text = .ok (Node.doc children)) := by
  obtain ⟨layout, hlayout, hblank⟩ := hindent.layout
  refine ⟨Editor.write layout (Node.doc children), generate_tree hlayout context hdoc, ?_, ?_⟩
  · intro r hr
    apply read_tree
    rw [hr]
    exact Editor.readLenient_write hblank hdoc hdepth
  · intro hvalid hlevels r hr
    apply read_tree
    rw [hr]
    exact Editor.readStrict_write hblank hdoc hdepth hvalid hlevels

def oddText : Node :=
  .text "\x01\"\\\n" [.link (.str "https://x.test/\x7f") .null (.str ""), .bold, .bold]

def oddBlocks : List Node :=
  [oddText, .branch .paragraph [.branch (.orderedList (-123456789012345678901234567890))
    [.branch .doc [.branch .bulletList []], .text "" [.underline, .italic]]]]

def tidyBlocks : List Node :=
  [.branch .paragraph [oddText], .branch (.orderedList (-123456789012345678901234567890))
    [.branch .listItem [.branch .paragraph [], .branch .bulletList []]]]

theorem hasAttributes_oddText : ∀ mark ∈ oddText.marks, mark.HasAttributes := by
  intro mark hmark
  simp [oddText, Node.marks, Node.leaves] at hmark
  rcases hmark with rfl | rfl <;> simp [Mark.HasAttributes, Json.IsAttribute]

theorem intDigits_oddStart :
    Json.intDigits (-123456789012345678901234567890) ≤ Json.digitLimit := by
  decide +kernel

theorem storable_oddBlocks : (Node.doc oddBlocks).Storable := by
  refine ⟨fun mark hmark => ?_, fun start hstart => ?_⟩
  · simp only [oddBlocks, Node.doc, Node.marks_branch, List.flatMap_cons, List.flatMap_nil,
      List.mem_append] at hmark
    rcases hmark with hmark | hmark | hmark
    · exact hasAttributes_oddText mark hmark
    · simp [Node.marks, Node.leaves] at hmark
      rcases hmark with rfl | rfl <;> trivial
    · simp at hmark
  · simp [oddBlocks, oddText, Node.doc, Node.starts, Node.allStarts] at hstart
    exact hstart ▸ intDigits_oddStart

theorem storable_tidyBlocks : (Node.doc tidyBlocks).Storable := by
  refine ⟨fun mark hmark => ?_, fun start hstart => ?_⟩
  · simp [tidyBlocks, Node.doc, Node.marks_branch] at hmark
    exact hasAttributes_oddText mark hmark
  · simp [tidyBlocks, oddText, Node.doc, Node.starts, Node.allStarts] at hstart
    exact hstart ▸ intDigits_oddStart

theorem read_generate_samples :
    (∃ text, (Writer.mk .tree ⟨.treeWriter, [("indent", .int 2)]⟩).generate .null
        (Node.doc oddBlocks) = .ok text ∧
      (Reader.mk .tree (Options.default .treeReader)).read text = .ok (Node.doc oddBlocks)) ∧
    ∃ text, (Writer.mk .tree (Options.default .treeWriter)).generate .null
        (Node.doc tidyBlocks) = .ok text ∧
      (Reader.mk .tree ⟨.treeReader, [("strict_mode", .bool true)]⟩).read text =
        .ok (Node.doc tidyBlocks) := by
  obtain ⟨odd, hodd, hlenient, _⟩ := read_generate_tree oddBlocks
    ⟨.treeWriter, [("indent", .int 2)]⟩ .null (Or.inr ⟨2, rfl⟩) storable_oddBlocks (by decide)
  obtain ⟨tidy, htidy, _, hstrict⟩ := read_generate_tree tidyBlocks
    (Options.default .treeWriter) .null (Or.inl rfl) storable_tidyBlocks (by decide)
  exact ⟨⟨odd, hodd, hlenient _ rfl⟩, tidy, htidy, hstrict rfl (by decide) _ rfl⟩

end Vitae
