import Mathlib.Logic.Relation
import Vitae.Proofs.Editor.RoundTrip
import Vitae.Proofs.Editor.Strict

/-!
# Lenient reading

Every value stands for a document, and what is not understood in it makes no difference: entries
that are no nodes or marks, content that is no array, and members of other names, in the root and in
all nodes and marks below it. The value that is written for the document stands for the same
document, and strict reading understands all of it.
-/

namespace Vitae

/-! ### The nodes of a tree -/

namespace Draft

mutual

/-- A tree and all below it in document order. -/
def subtrees : Draft → List Draft
  | .text content marks => [.text content marks]
  | .branch container children => .branch container children :: allSubtrees children
  | .value v => [.value v]

def allSubtrees : List Draft → List Draft
  | [] => []
  | child :: rest => subtrees child ++ allSubtrees rest

end

mutual

theorem exists_ofNode_of_mem_subtrees : (node : Node) → {tree : Draft} →
    tree ∈ (ofNode node).subtrees → ∃ below, tree = ofNode below
  | .text content marks, tree, h => ⟨.text content marks, List.mem_singleton.1 h⟩
  | .branch container children, tree, h => by
    rw [ofNode, subtrees] at h
    rcases List.mem_cons.1 h with rfl | h
    · exact ⟨.branch container children, by rw [ofNode]⟩
    · exact exists_ofNode_of_mem_allSubtrees children h

theorem exists_ofNode_of_mem_allSubtrees : (nodes : List Node) → {tree : Draft} →
    tree ∈ allSubtrees (ofNodes nodes) → ∃ below, tree = ofNode below
  | [], tree, h => absurd h List.not_mem_nil
  | node :: rest, tree, h => by
    rw [ofNodes, allSubtrees, List.mem_append] at h
    rcases h with h | h
    · exact exists_ofNode_of_mem_subtrees node h
    · exact exists_ofNode_of_mem_allSubtrees rest h

end

theorem exists_str_of_mem_subtrees {node : Node} {content : Json} {marks : List DraftMark}
    (h : .text content marks ∈ (ofNode node).subtrees) : ∃ s, content = .str s := by
  obtain ⟨below, hbelow⟩ := exists_ofNode_of_mem_subtrees node h
  cases below with
  | text s known =>
    cases hbelow
    exact ⟨s, rfl⟩
  | branch container children => cases hbelow

theorem exists_int_of_mem_subtrees {node : Node} {start : Json} {children : List Draft}
    (h : .branch (.orderedList start) children ∈ (ofNode node).subtrees) :
    ∃ n, start = .int n := by
  obtain ⟨below, hbelow⟩ := exists_ofNode_of_mem_subtrees node h
  cases below with
  | text s known => cases hbelow
  | branch container nodes =>
    cases container with
    | orderedList n =>
      cases hbelow
      exact ⟨n, rfl⟩
    | _ => cases hbelow

end Draft

namespace Editor

/-! ### What is not understood -/

/-- The objects of the types of nodes, as `IsMark` is for marks. -/
inductive IsNode : Json → Prop where
  | node {members : List (String × Json)} {name : String}
      (hname : name ∈ ["doc", "paragraph", "bulletList", "orderedList", "listItem", "text"])
      (htype : HasType members name) : IsNode (.obj members)

/-- The names of members that nodes and marks are read from. -/
def fieldNames : List String := ["type", "content", "text", "marks", "attrs"]

def attributeNames : List String := ["start", "href", "target", "class"]

/-- One change of an object that is no change of the document: in the object itself or in one that
is listed in it as a node or a mark. Read from right to left it takes away what it adds. An object
that is given as a text or as an attribute's value is data: what stands in it is not covered. -/
inductive Change : Json → Json → Prop where
  | field {before after : List (String × Json)} {name : String} {value : Json}
      (h : name ∉ fieldNames) :
      Change (.obj (before ++ after)) (.obj (before ++ (name, value) :: after))
  | attr {before after inner others : List (String × Json)} {name : String} {value : Json}
      (h : name ∉ attributeNames) :
      Change (.obj (before ++ ("attrs", .obj (inner ++ others)) :: after))
        (.obj (before ++ ("attrs", .obj (inner ++ (name, value) :: others)) :: after))
  | node {before after : List (String × Json)} {front back : List Json} {item : Json}
      (h : ¬ IsNode item) :
      Change (.obj (before ++ ("content", .arr (front ++ back)) :: after))
        (.obj (before ++ ("content", .arr (front ++ item :: back)) :: after))
  | mark {before after : List (String × Json)} {front back : List Json} {item : Json}
      (h : ¬ IsMark item) :
      Change (.obj (before ++ ("marks", .arr (front ++ back)) :: after))
        (.obj (before ++ ("marks", .arr (front ++ item :: back)) :: after))
  | noArray {before after : List (String × Json)} {value : Json}
      (h : ∀ items, value ≠ .arr items) :
      Change (.obj (before ++ ("content", value) :: after))
        (.obj (before ++ ("content", .null) :: after))
  | inside {before after : List (String × Json)} {name : String} {front back : List Json}
      {item item' : Json} (hname : name ∈ ["content", "marks"]) (h : Change item item') :
      Change (.obj (before ++ (name, .arr (front ++ item :: back)) :: after))
        (.obj (before ++ (name, .arr (front ++ item' :: back)) :: after))

/-! ### Members -/

section

variable {before after : List (String × Json)} {name other : String} {value value' : Json}

theorem member?_append (a b : List (String × Json)) (name : String) :
    Json.member? (a ++ b) name = (Json.member? a name).or (Json.member? b name) := by
  simp only [Json.member?, List.find?_append]
  cases List.find? (fun m => m.1 == name) a <;> rfl

theorem member?_insert (h : other ≠ name) :
    Json.member? (before ++ (name, value) :: after) other = Json.member? (before ++ after) other := by
  have hcons : Json.member? ((name, value) :: after) other = Json.member? after other := by
    simp [Json.member?, h.symm]
  rw [member?_append, member?_append, hcons]

theorem fieldOf_insert (h : other ≠ name) :
    fieldOf (before ++ (name, value) :: after) other = fieldOf (before ++ after) other := by
  rw [fieldOf, fieldOf, member?_insert h]

/-- What is read from a member alone stays the same if the values of the member read the same. -/
theorem read_replace {α : Type} (read : Json → α) (h : other = name → read value = read value') :
    read (fieldOf (before ++ (name, value) :: after) other) =
      read (fieldOf (before ++ (name, value') :: after) other) := by
  rw [fieldOf, fieldOf, member?_append, member?_append]
  cases Json.member? before other with
  | some found => rfl
  | none =>
    by_cases hname : other = name
    · subst hname
      simpa [Json.member?] using h rfl
    · have hne : (name == other) = false := by simpa using fun heq => hname heq.symm
      simp [Json.member?, hne]

end

/-- Two objects that read alike, whether as nodes or as marks. -/
structure Alike (a b : List (String × Json)) : Prop where
  type : fieldOf a "type" = fieldOf b "type"
  text : fieldOf a "text" = fieldOf b "text"
  content : decodeArray (fieldOf a "content") = decodeArray (fieldOf b "content")
  marks : marksOf (fieldOf a "marks") = marksOf (fieldOf b "marks")
  attrs : ∀ name ∈ attributeNames,
    (fieldOf a "attrs").get? name = (fieldOf b "attrs").get? name

namespace Alike

variable {a b before after : List (String × Json)} {name : String} {value value' : Json}

theorem insert (h : name ∉ fieldNames) : Alike (before ++ after) (before ++ (name, value) :: after) := by
  have hfield : ∀ other ∈ fieldNames,
      fieldOf (before ++ after) other = fieldOf (before ++ (name, value) :: after) other :=
    fun other hother => (fieldOf_insert fun (heq : other = name) => h (heq ▸ hother)).symm
  have hattrs := hfield "attrs" (by decide)
  exact ⟨hfield _ (by decide), hfield _ (by decide), by rw [hfield _ (by decide)],
    by rw [hfield _ (by decide)], fun _ _ => by rw [hattrs]⟩

theorem replace (htype : "type" ≠ name) (htext : "text" ≠ name)
    (hcontent : "content" = name → decodeArray value = decodeArray value')
    (hmarks : "marks" = name → marksOf value = marksOf value')
    (hattrs : "attrs" = name → ∀ key ∈ attributeNames,
      value.get? key = value'.get? key) :
    Alike (before ++ (name, value) :: after) (before ++ (name, value') :: after) where
  type := read_replace id fun h => absurd h htype
  text := read_replace id fun h => absurd h htext
  content := read_replace decodeArray hcontent
  marks := read_replace marksOf hmarks
  attrs key hmem := read_replace (Json.get? key) fun h => hattrs h key hmem

theorem replace_content (h : decodeArray value = decodeArray value') :
    Alike (before ++ ("content", value) :: after) (before ++ ("content", value') :: after) :=
  replace (by decide) (by decide) (fun _ => h) (fun h => absurd h (by decide))
    fun h => absurd h (by decide)

theorem replace_marks (h : marksOf value = marksOf value') :
    Alike (before ++ ("marks", value) :: after) (before ++ ("marks", value') :: after) :=
  replace (by decide) (by decide) (fun h => absurd h (by decide)) (fun _ => h)
    fun h => absurd h (by decide)

theorem replace_attrs
    (h : ∀ key ∈ attributeNames, value.get? key = value'.get? key) :
    Alike (before ++ ("attrs", value) :: after) (before ++ ("attrs", value') :: after) :=
  replace (by decide) (by decide) (fun h => absurd h (by decide)) (fun h => absurd h (by decide))
    fun _ => h

theorem decodeContent (h : Alike a b) : decodeContent a = decodeContent b := by
  rw [search_eq Editor.decodeContent decodeArray rfl (fun _ _ _ => rfl) a,
    search_eq Editor.decodeContent decodeArray rfl (fun _ _ _ => rfl) b, h.content]

theorem decode (h : Alike a b) : decode (.obj a) = decode (.obj b) := by
  have hstart : startOf a = startOf b := by
    rw [startOf, startOf, h.attrs "start" (by decide)]
  rw [Editor.decode, Editor.decode, h.type, h.text, h.marks, hstart, h.decodeContent]

theorem decodeMark (h : Alike a b) : decodeMark (.obj a) = decodeMark (.obj b) := by
  have hattribute : ∀ key ∈ attributeNames,
      (fieldOf a "attrs").field key = (fieldOf b "attrs").field key := by
    intro key hmem
    rw [Json.field, Json.field, h.attrs key hmem]
  rw [Editor.decodeMark, Editor.decodeMark, markOf?, markOf?, h.type]
  simp only [hattribute "href" (by decide), hattribute "target" (by decide),
    hattribute "class" (by decide)]

theorem decodeDoc (h : Alike a b) : decodeDoc (.obj a) = decodeDoc (.obj b) := by
  rw [Editor.decodeDoc, Editor.decodeDoc, h.decodeContent]

end Alike

/-! ### Changes -/

theorem decodeItems_eq_filterMap (items : List Json) : decodeItems items = items.filterMap decode := by
  induction items with
  | nil => rw [decodeItems, List.filterMap_nil]
  | cons item rest ih =>
    rw [decodeItems, List.filterMap_cons, ih]
    cases decode item <;> rfl

theorem decode_eq_none {item : Json} (h : ¬ IsNode item) : decode item = none := by
  cases item with
  | obj members =>
    rw [decode]
    cases htype : nodeType? (fieldOf members "type") with
    | none => rfl
    | some type =>
      refine absurd ?_ h
      cases type with
      | text => exact .node (by decide) (fieldOf_eq_str_iff.1 (nodeType?_eq_text_iff.1 htype))
      | branch container =>
        have htag := fieldOf_eq_str_iff.1 (nodeType?_eq_branch_iff.1 htype)
        refine .node ?_ htag
        cases container <;> simp [Container.tag]
  | _ => rw [decode]; exact fun _ => nofun

theorem decodeMark_eq_none {item : Json} (h : ¬ IsMark item) : decodeMark item = none := by
  rw [Option.eq_none_iff_forall_ne_some]
  exact fun mark hmark => h (isMark_iff.2 ⟨mark, decodeMarkStrict_eq_ok_iff.2 hmark⟩)

theorem Change.exists_alike {value value' : Json} (h : Change value value') :
    ∃ a b, value = .obj a ∧ value' = .obj b ∧ Alike a b := by
  induction h with
  | field hname => exact ⟨_, _, rfl, rfl, .insert hname⟩
  | @attr before after inner others name value hname =>
    refine ⟨_, _, rfl, rfl, .replace_attrs fun key hmem => ?_⟩
    exact (member?_insert fun heq : key = name => hname (heq ▸ hmem)).symm
  | node hitem =>
    refine ⟨_, _, rfl, rfl, .replace_content ?_⟩
    simp [decodeArray, decodeItems_eq_filterMap, decode_eq_none hitem]
  | mark hitem =>
    refine ⟨_, _, rfl, rfl, .replace_marks ?_⟩
    simp [marksOf, decodeMark_eq_none hitem]
  | @noArray before after value hvalue =>
    refine ⟨_, _, rfl, rfl, .replace_content ?_⟩
    cases value with
    | arr items => exact absurd rfl (hvalue items)
    | _ => rfl
  | inside hname _ ih =>
    obtain ⟨a, b, rfl, rfl, halike⟩ := ih
    refine ⟨_, _, rfl, rfl, ?_⟩
    rcases List.mem_cons.1 hname with rfl | hname
    · refine .replace_content ?_
      simp only [decodeArray, decodeItems_eq_filterMap, List.filterMap_append, List.filterMap_cons,
        halike.decode]
    · cases List.mem_singleton.1 hname
      refine .replace_marks ?_
      simp only [marksOf, List.filterMap_append, List.filterMap_cons, halike.decodeMark]

theorem Change.decodeDoc_eq {value value' : Json} (h : Change value value') :
    decodeDoc value = decodeDoc value' := by
  obtain ⟨a, b, rfl, rfl, halike⟩ := h.exists_alike
  exact halike.decodeDoc

theorem decodeDoc_of_eqvGen {value value' : Json} (h : Relation.EqvGen Change value value') :
    decodeDoc value = decodeDoc value' := by
  induction h with
  | rel _ _ hchange => exact hchange.decodeDoc_eq
  | refl _ => rfl
  | symm _ _ _ ih => exact ih.symm
  | trans _ _ _ _ _ ih ih' => exact ih.trans ih'

theorem exists_decodeDoc_eq (value : Json) : ∃ children, decodeDoc value = Node.doc children := by
  cases value with
  | obj members => exact ⟨decodeContent members, by rw [decodeDoc]⟩
  | _ => exact ⟨[], by simp [decodeDoc]⟩

/-- Every value stands for a document, in which texts have strings and ordered lists integers; it is
that of strict reading if strict reading understands all of the value. What is written for the
document stands for it again, for strict reading too. Any number of changes of what is not
understood, in whichever direction, leaves the document as it is. -/
theorem decodeDoc_normalizes (value : Json) :
    (∃ children, decodeDoc value = Node.doc children) ∧
      (∀ content marks, .text content marks ∈ (Draft.ofNode (decodeDoc value)).subtrees →
        ∃ s, content = .str s) ∧
      (∀ start children, .branch (.orderedList start) children ∈
        (Draft.ofNode (decodeDoc value)).subtrees → ∃ n, start = .int n) ∧
      (∀ doc, decodeDocStrict value = .ok doc → decodeDoc value = doc) ∧
      decodeDoc (encode (decodeDoc value)) = decodeDoc value ∧
      decodeDocStrict (encode (decodeDoc value)) = .ok (decodeDoc value) ∧
      ∀ value', Relation.EqvGen Change value value' → decodeDoc value' = decodeDoc value := by
  obtain ⟨children, hdoc⟩ := exists_decodeDoc_eq value
  refine ⟨⟨children, hdoc⟩, fun _ _ => Draft.exists_str_of_mem_subtrees,
    fun _ _ => Draft.exists_int_of_mem_subtrees, fun _ => decodeDoc_of_decodeDocStrict, ?_, ?_,
    fun _ h => (decodeDoc_of_eqvGen h).symm⟩
  · rw [hdoc, decodeDoc_encode]
  · rw [hdoc, decodeDocStrict_encode]

def sampleText (marks : List Json) : Json :=
  .obj [("type", .str "text"), ("text", .int 5), ("marks", .arr marks)]

def sampleLink (extra : List (String × Json)) : Json :=
  .obj [("type", .str "link"), ("attrs", .obj (("href", .arr [.int 0]) :: extra))]

def sampleList (content : Json) : Json :=
  .obj [("type", .str "orderedList"), ("attrs", .obj [("start", .bool true)]), ("content", content)]

/-- A document with a text in a paragraph and with a list. -/
def sampleValue (extra : List (String × Json)) (strays : List Json) (text list : Json) : Json :=
  .obj (extra ++ [("content", .arr (strays ++
    [.obj [("type", .str "paragraph"), ("content", .arr [text])], list]))])

def messyValue : Json :=
  sampleValue [("id", .int 7)] [.str "stray"] (sampleText [.null, sampleLink [("rel", .str "me")]])
    (sampleList (.str "none"))

def tidyValue : Json := sampleValue [] [] (sampleText [sampleLink []]) (sampleList .null)

theorem change_sampleValue_text {text text' list : Json} (h : Change text text') :
    Change (sampleValue [] [] text list) (sampleValue [] [] text' list) := by
  have hparagraph : Change (.obj [("type", .str "paragraph"), ("content", .arr [text])])
      (.obj [("type", .str "paragraph"), ("content", .arr [text'])]) :=
    @Change.inside [_] [] "content" [] [] _ _ (by decide) h
  exact @Change.inside [] [] "content" [] [_] _ _ (by decide) hparagraph

theorem eqvGen_messyValue_tidyValue : Relation.EqvGen Change messyValue tidyValue := by
  let rel := [("rel", Json.str "me")]
  let none := sampleList (.str "none")
  have hid : Change (sampleValue [] [.str "stray"] (sampleText [.null, sampleLink rel]) none)
      messyValue := @Change.field [] [_] "id" (.int 7) (by decide)
  have hstray : Change (sampleValue [] [] (sampleText [.null, sampleLink rel]) none)
      (sampleValue [] [.str "stray"] (sampleText [.null, sampleLink rel]) none) :=
    @Change.node [] [] [] [_, _] (.str "stray") nofun
  have hnull : Change (sampleText [sampleLink rel]) (sampleText [.null, sampleLink rel]) :=
    @Change.mark [_, _] [] [] [_] .null nofun
  have hrel : Change (sampleLink []) (sampleLink rel) :=
    @Change.attr [_] [] [_] [] "rel" (.str "me") (by decide)
  have hlink : Change (sampleText [sampleLink []]) (sampleText [sampleLink rel]) :=
    @Change.inside [_, _] [] "marks" [] [] _ _ (by decide) hrel
  have hnone : Change none (sampleList .null) :=
    @Change.noArray [_, _] [] (.str "none") nofun
  have hlist : Change (sampleValue [] [] (sampleText [sampleLink []]) none) tidyValue :=
    @Change.inside [] [] "content" [_] [] _ _ (by decide) hnone
  refine .trans _ _ _ (.symm _ _ (.rel _ _ hid)) ?_
  refine .trans _ _ _ (.symm _ _ (.rel _ _ hstray)) ?_
  refine .trans _ _ _ (.symm _ _ (.rel _ _ (change_sampleValue_text hnull))) ?_
  refine .trans _ _ _ (.symm _ _ (.rel _ _ (change_sampleValue_text hlink))) ?_
  exact .rel _ _ hlist

theorem decodeDoc_normalizes_messy :
    decodeDoc messyValue = Node.doc [.branch .paragraph [.text "5" [.link (.arr [.int 0]) .null .null]],
        .branch (.orderedList 1) []] ∧
      decodeDoc tidyValue = decodeDoc messyValue ∧
      decodeDocStrict (encode (decodeDoc messyValue)) = .ok (decodeDoc messyValue) := by
  obtain ⟨-, -, -, -, -, hstrict, hchanges⟩ := decodeDoc_normalizes messyValue
  exact ⟨rfl, hchanges tidyValue eqvGen_messyValue_tidyValue, hstrict⟩

end Editor

end Vitae
