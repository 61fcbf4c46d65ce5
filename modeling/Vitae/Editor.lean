import Vitae.Rules
import Vitae.Json.Reader
import Vitae.Json.Writer

/-!
# The editor's format

Documents as JSON: every node is an object with a `type`; containers list their children under
`content`, a text has its content under `text` and its marks under `marks`, links and ordered lists
keep their attributes under `attrs`.

`encode` writes a document in this format. `decode` reads every value and skips what it does not
understand; `decodeStrict` refuses what `decode` skips and says what is wrong with it.
-/

namespace Vitae.Editor

/-! ### Writing -/

def encodeMark : Mark → Json
  | .link href target className =>
    .obj [("type", .str "link"),
      ("attrs", .obj [("href", href), ("target", target), ("class", className)])]
  | mark => .obj [("type", .str mark.tag)]

mutual

def encode : Node → Json
  | .text content [] => .obj [("type", .str "text"), ("text", .str content)]
  | .text content marks =>
    .obj [("type", .str "text"), ("text", .str content), ("marks", .arr (marks.map encodeMark))]
  | .branch (.orderedList start) children =>
    .obj [("type", .str "orderedList"), ("content", .arr (encodeAll children)),
      ("attrs", .obj [("start", .int start)])]
  | .branch container children =>
    .obj [("type", .str container.tag), ("content", .arr (encodeAll children))]

def encodeAll : List Node → List Json
  | [] => []
  | child :: rest => encode child :: encodeAll rest

end

mutual

/-- An unchecked tree as JSON, if only nodes and marks stand in their places: contents and first
numbers are written as they are. -/
def encodeDraft : Draft → Option Json
  | .text content marks =>
    (marks.mapM Draft.mark?).map fun marks =>
      .obj ([("type", .str "text"), ("text", content)] ++
        (if marks.isEmpty then [] else [("marks", .arr (marks.map encodeMark))]))
  | .branch container children =>
    (encodeDrafts children).map fun items =>
      .obj ([("type", .str container.tag), ("content", .arr items)] ++
        (match container with
        | .orderedList start => [("attrs", .obj [("start", start)])]
        | _ => []))
  | .value _ => none

def encodeDrafts : List Draft → Option (List Json)
  | [] => some []
  | child :: rest =>
    match encodeDraft child with
    | none => none
    | some item => (encodeDrafts rest).map (item :: ·)

end

mutual

theorem encodeDraft_ofNode : (node : Node) → encodeDraft (Draft.ofNode node) = some (encode node)
  | .text content marks => by
    simp only [Draft.ofNode, encodeDraft, Draft.mapM_mark?, Option.map_some]
    cases marks <;> simp [encode]
  | .branch container children => by
    cases container <;>
      simp [Draft.ofNode, encodeDraft, encode, encodeDrafts_ofNodes children, Container.map,
        Container.tag]

theorem encodeDrafts_ofNodes : (nodes : List Node) →
    encodeDrafts (Draft.ofNodes nodes) = some (encodeAll nodes)
  | [] => rfl
  | child :: rest => by
    simp [Draft.ofNodes, encodeDrafts, encodeAll, encodeDraft_ofNode child,
      encodeDrafts_ofNodes rest]

end

def write (layout : Json.Layout) (node : Node) : String := Json.write layout (encode node)

/-- The text of a document, if the attributes of its links are values of JSON. -/
def write? (layout : Json.Layout) (node : Node) : Option String := Json.write? layout (encode node)

/-! ### What is understood -/

inductive NodeType where
  | text
  | branch (container : Container Unit)
  deriving Repr

def nodeType? : Json → Option NodeType
  | .str "doc" => some (.branch .doc)
  | .str "paragraph" => some (.branch .paragraph)
  | .str "bulletList" => some (.branch .bulletList)
  | .str "orderedList" => some (.branch (.orderedList ()))
  | .str "listItem" => some (.branch .listItem)
  | .str "text" => some .text
  | _ => none

def fieldOf (members : List (String × Json)) (name : String) : Json :=
  (Json.member? members name).getD .null

def markOf? (members : List (String × Json)) : Option Mark :=
  match fieldOf members "type" with
  | .str "bold" => some .bold
  | .str "italic" => some .italic
  | .str "underline" => some .underline
  | .str "link" =>
    let attrs := fieldOf members "attrs"
    some (.link (attrs.field "href") (attrs.field "target") (attrs.field "class"))
  | _ => none

/-- The `start` among the attributes; without one, or without attributes, it is one. -/
def startOf (members : List (String × Json)) : Json :=
  ((fieldOf members "attrs").get? "start").getD (.int 1)

/-! ### Lenient reading -/

def decodeMark : Json → Option Mark
  | .obj members => markOf? members
  | _ => none

/-- The text that a `text` value stands for: null is empty, other values are shown. -/
def contentOf : Json → String
  | .null => ""
  | value => String.ofList value.plain

def marksOf : Json → List Mark
  | .arr items => items.filterMap decodeMark
  | _ => []

def containerOf (start : Json) : Container Unit → Container Int :=
  Container.map fun _ =>
    match start with
    | .int n => n
    | _ => 1

mutual

def decode : Json → Option Node
  | .obj members =>
    match nodeType? (fieldOf members "type") with
    | none => none
    | some .text =>
      some (.text (contentOf (fieldOf members "text")) (marksOf (fieldOf members "marks")))
    | some (.branch container) =>
      some (.branch (containerOf (startOf members) container) (decodeContent members))
  | _ => none

def decodeContent : List (String × Json) → List Node
  | [] => []
  | (name, value) :: rest => if name == "content" then decodeArray value else decodeContent rest

def decodeArray : Json → List Node
  | .arr items => decodeItems items
  | _ => []

/-- The nodes that values stand for; the others are skipped. -/
def decodeItems : List Json → List Node
  | [] => []
  | item :: rest =>
    match decode item with
    | some node => node :: decodeItems rest
    | none => decodeItems rest

end

/-- The document of a root value: its content, whatever type it states. -/
def decodeDoc : Json → Node
  | .obj members => Node.doc (decodeContent members)
  | _ => Node.doc []

/-! ### Strict reading -/

inductive Defect where
  | root (found : String)
  | rootType (found : Json)
  | node (found : String)
  | nodeType (found : Json)
  | content (found : String)
  | text (found : String)
  | marks (found : String)
  | mark (found : String)
  | markType (found : Json)
  | start (found : Json)
  deriving Repr

def Defect.message : Defect → String
  | .root found => s!"Document root must be an object, got {found}"
  | .rootType found => s!"Document root must have type 'doc', got {found.displayString}"
  | .node found => s!"Node must be an object, got {found}"
  | .nodeType found => s!"Unknown node type: {found.displayString}"
  | .content found => s!"'content' must be an array, got {found}"
  | .text found => s!"Text node 'text' must be a string, got {found}"
  | .marks found => s!"'marks' must be an array, got {found}"
  | .mark found => s!"Mark must be an object, got {found}"
  | .markType found => s!"Unknown mark type: {found.displayString}"
  | .start found => s!"orderedList 'start' must be an integer, got {found.displayString}"

def decodeMarkStrict : Json → Except Defect Mark
  | .obj members =>
    match markOf? members with
    | some mark => .ok mark
    | none => .error (.markType (fieldOf members "type"))
  | value => .error (.mark value.typeName)

def decodeMarksStrict : List Json → Except Defect (List Mark)
  | [] => .ok []
  | item :: rest =>
    match decodeMarkStrict item with
    | .error e => .error e
    | .ok mark => (decodeMarksStrict rest).map (mark :: ·)

def marksStrict : Json → Except Defect (List Mark)
  | .null => .ok []
  | .arr items => decodeMarksStrict items
  | value => .error (.marks value.typeName)

def contentStrict : Json → Except Defect String
  | .str s => .ok s
  | value => .error (.text value.typeName)

def containerStrict (start : Json) : Container Unit → Except Defect (Container Int)
  | .doc => .ok .doc
  | .paragraph => .ok .paragraph
  | .bulletList => .ok .bulletList
  | .listItem => .ok .listItem
  | .orderedList () =>
    match start with
    | .int n => .ok (.orderedList n)
    | found => .error (.start found)

/-- A text, read strictly: first its content, then its marks. -/
def textStrict (members : List (String × Json)) : Except Defect Node :=
  match contentStrict (fieldOf members "text") with
  | .error e => .error e
  | .ok content => (marksStrict (fieldOf members "marks")).map (.text content)

mutual

/-- A node, read strictly: first its children, then its attributes. -/
def decodeStrict : Json → Except Defect Node
  | .obj members =>
    match nodeType? (fieldOf members "type") with
    | none => .error (.nodeType (fieldOf members "type"))
    | some .text => textStrict members
    | some (.branch container) =>
      match decodeContentStrict members with
      | .error e => .error e
      | .ok children =>
        (containerStrict (startOf members) container).map (.branch · children)
  | value => .error (.node value.typeName)

def decodeContentStrict : List (String × Json) → Except Defect (List Node)
  | [] => .ok []
  | (name, value) :: rest =>
    if name == "content" then decodeArrayStrict value else decodeContentStrict rest

def decodeArrayStrict : Json → Except Defect (List Node)
  | .null => .ok []
  | .arr items => decodeItemsStrict items
  | value => .error (.content value.typeName)

def decodeItemsStrict : List Json → Except Defect (List Node)
  | [] => .ok []
  | item :: rest =>
    match decodeStrict item with
    | .error e => .error e
    | .ok node => (decodeItemsStrict rest).map (node :: ·)

end

/-- The document of a root value, read strictly: the root is an object of type `doc`. -/
def decodeDocStrict : Json → Except Defect Node
  | .obj members =>
    match fieldOf members "type" with
    | .str "doc" => (decodeContentStrict members).map Node.doc
    | found => .error (.rootType found)
  | value => .error (.root value.typeName)

/-! ### Reading a source -/

inductive Refusal where
  | json (e : Json.ReadError)
  | defect (d : Defect)
  | violation (v : Violation)
  | tooDeep
  deriving Repr

def levelLimit : Nat := 330

def readLenient (source : String) (half : Char := Json.standIn) : Except Refusal Node :=
  match Json.read source half with
  | .error e => .error (.json e)
  | .ok value => .ok (decodeDoc value)

/-- The document of a source, read strictly: every value is understood and every structural rule
holds. -/
def readStrict (source : String) (half : Char := Json.standIn) : Except Refusal Node :=
  match Json.read source half with
  | .error e => .error (.json e)
  | .ok value =>
    match decodeDocStrict value with
    | .error d => .error (.defect d)
    | .ok doc =>
      match Draft.check levelLimit (Draft.ofNode doc) with
      | .ok () => .ok doc
      | .error (.violation v) => .error (.violation v)
      | .error .tooDeep => .error .tooDeep

def read (strict : Bool) (source : String) (half : Char := Json.standIn) : Except Refusal Node :=
  if strict then readStrict source half else readLenient source half

end Vitae.Editor
