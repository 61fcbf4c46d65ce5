import Vitae.Markdown.Reader
import Vitae.Markdown.Record

/-!
# Parts of a document

What the name of its type makes of a token: text, a span that gives a mark to the text inside it, a
block, or nothing. One step of `transform` depends on its next record by its part alone.
-/

namespace Vitae.Markdown

/-- What a token contributes to a document. The mark of a span may need the link attributes. -/
inductive Part where
  | text (run : List Char)
  | span (mark : LinkAttributes → Mark)
  | block (container : Container Int)
  | nothing

namespace Record

/-! ### Types -/

def kinds : List String :=
  ["text", "softbreak", "strong", "emphasis", "link", "paragraph", "block_text", "list", "list_item"]

def part (record : Record) : Part :=
  match record.kind with
  | "text" => .text (CharRef.decode (record.raw.getD "").toList)
  | "softbreak" => .text ['\n']
  | "strong" => .span fun _ => .bold
  | "emphasis" => .span fun _ => .italic
  | "link" => .span fun links => .link (record.attrs.field "url") links.target links.className
  | "paragraph" => .block .paragraph
  | "block_text" => .block .paragraph
  | "list" =>
    match start? record.attrs with
    | none => .block .bulletList
    | some start => .block (.orderedList start)
  | "list_item" => .block .listItem
  | _ => .nothing

theorem part_of_notMem_kinds {record : Record} (h : record.kind ∉ kinds) :
    record.part = .nothing := by
  unfold part
  split
  all_goals first
    | rfl
    | exact absurd (by simp [kinds, *]) h

theorem token_part (record : Record) :
    (∃ run, record.part = .text run ∧ record.token.joinsRun = true ∧ record.token.runText = run) ∨
    (∃ style : Style, record.part = .span (fun links => style.mark links) ∧
      record.token = .styled style (tokens record.children)) ∨
    (∃ group : Group, record.part = .block group.container ∧
      record.token = .group group (tokens record.children)) ∨
    (record.part = .nothing ∧
      ∃ kind raw, record.token = .dropped kind raw (tokens record.children)) := by
  obtain ⟨kind, raw, attrs, children⟩ := record
  dsimp only [part, token]
  -- One case for each type, in the order in which `part` tells them apart.
  split
  · exact Or.inl ⟨_, rfl, rfl, rfl⟩
  · exact Or.inl ⟨_, rfl, rfl, rfl⟩
  · exact Or.inr (Or.inl ⟨.strong, rfl, rfl⟩)
  · exact Or.inr (Or.inl ⟨.emphasis, rfl, rfl⟩)
  · exact Or.inr (Or.inl ⟨.link _, rfl, rfl⟩)
  · exact Or.inr (Or.inr (Or.inl ⟨.paragraph, rfl, rfl⟩))
  · exact Or.inr (Or.inr (Or.inl ⟨.paragraph, rfl, rfl⟩))
  · refine Or.inr (Or.inr (Or.inl ⟨.list (start? attrs), ?_, rfl⟩))
    cases start? attrs <;> rfl
  · exact Or.inr (Or.inr (Or.inl ⟨.item, rfl, rfl⟩))
  · refine Or.inr (Or.inr (Or.inr ⟨rfl, kind, raw.getD "", ?_⟩))
    split
    all_goals first
      | contradiction
      | rfl

/-! ### Forests -/

@[elab_as_elim]
theorem forest_induction {motive : List Record → Prop} (nil : motive [])
    (cons : ∀ record rest, motive record.children → motive rest → motive (record :: rest)) :
    ∀ records, motive records
  | [] => nil
  | ⟨kind, raw, attrs, children⟩ :: rest =>
    cons ⟨kind, raw, attrs, children⟩ rest (forest_induction nil cons children)
      (forest_induction nil cons rest)

variable {α : Type}

mutual

def gatherOne (f : Part → List α → List α) : Record → List α
  | ⟨kind, raw, attrs, children⟩ => f (part ⟨kind, raw, attrs, children⟩) (gather f children)

/-- What a forest amounts to, if a token amounts to `f` of its part and of what is inside it. -/
def gather (f : Part → List α → List α) : List Record → List α
  | [] => []
  | record :: rest => gatherOne f record ++ gather f rest

end

theorem gather_nil (f : Part → List α → List α) : gather f [] = [] := by
  rw [gather]

theorem gather_cons (f : Part → List α → List α) (record : Record) (rest : List Record) :
    gather f (record :: rest) = f record.part (gather f record.children) ++ gather f rest := by
  obtain ⟨kind, raw, attrs, children⟩ := record
  rw [gather, gatherOne]

/-! ### The step -/

variable (links : LinkAttributes) (marks : List Mark) (run : List Char)

/-- What `transform` does with a record: text is kept open, and everything else ends it. -/
theorem transformRun_cons (record : Record) (rest : List Record) :
    transformRun links marks run (tokens (record :: rest)) =
      match record.part with
      | .text more => transformRun links marks (run ++ more) (tokens rest)
      | .span mark =>
        leaf marks run ++ (transform links (marks ++ [mark links]) (tokens record.children) ++
          transform links marks (tokens rest))
      | .block container =>
        leaf marks run ++ (.branch container (transform links marks (tokens record.children)) ::
          transform links marks (tokens rest))
      | .nothing => leaf marks run ++ transform links marks (tokens rest) := by
  rw [tokens]
  rcases record.token_part with ⟨more, hpart, hjoins, hmore⟩ | ⟨style, hpart, htoken⟩ |
    ⟨group, hpart, htoken⟩ | ⟨hpart, kind, raw, htoken⟩
  · rw [hpart, transformRun_join links marks run _ hjoins, hmore]
  · rw [hpart, htoken]
    rfl
  · rw [hpart, htoken]
    rfl
  · rw [hpart, htoken]
    rfl

end Record

/-! ### Views -/

/-- A view of nodes that sees neither marks nor where one leaf ends and the next one begins. A token
adds `f` of its part and of what is seen inside it. -/
structure IsView {α : Type} (view : List Node → List α) (f : Part → List α → List α) : Prop where
  nil : view [] = []
  append : ∀ a b, view (a ++ b) = view a ++ view b
  leaf : ∀ marks run inside, view (leaf marks run) = f (.text run) inside
  join : ∀ a b inside, f (.text (a ++ b)) inside = f (.text a) inside ++ f (.text b) inside
  span : ∀ mark inside, f (.span mark) inside = inside
  branch : ∀ container children,
    view [.branch container children] = f (.block container) (view children)
  nothing : ∀ inside, f .nothing inside = []

namespace IsView

variable {α : Type} {view : List Node → List α} {f : Part → List α → List α}

theorem text_nil (h : IsView view f) (inside : List α) : f (.text []) inside = [] := by
  rw [← h.leaf [], Markdown.leaf, h.nil]

theorem cons_branch (h : IsView view f) (container : Container Int) (children nodes : List Node) :
    view (.branch container children :: nodes) = f (.block container) (view children) ++ view nodes := by
  rw [← List.singleton_append, h.append, h.branch]

theorem transformRun_eq (h : IsView view f) (links : LinkAttributes) (records : List Record) :
    ∀ marks run, view (transformRun links marks run (Record.tokens records)) =
      f (.text run) [] ++ Record.gather f records := by
  induction records using Record.forest_induction with
  | nil =>
    intro marks run
    rw [Record.gather_nil, List.append_nil]
    exact h.leaf marks run []
  | cons record rest ihChildren ihRest =>
    intro marks run
    rw [Record.transformRun_cons, Record.gather_cons]
    simp only [transform]
    cases record.part with
    | text more =>
      dsimp only
      rw [ihRest, h.join, List.append_assoc, ← h.leaf [] more, ← h.leaf [] more]
    | span mark =>
      simp only [h.append, h.leaf marks run [], h.span, h.text_nil, ihChildren, ihRest, List.nil_append]
    | block container =>
      simp only [h.append, h.cons_branch, h.leaf marks run [], h.text_nil, ihChildren, ihRest,
        List.nil_append]
    | nothing =>
      simp only [h.append, h.leaf marks run [], h.nothing, h.text_nil, ihRest, List.nil_append]

theorem transform_eq (h : IsView view f) (links : LinkAttributes) (marks : List Mark)
    (records : List Record) :
    view (transform links marks (Record.tokens records)) = Record.gather f records := by
  rw [transform, h.transformRun_eq, h.text_nil, List.nil_append]

end IsView

/-! ### Records of tokens -/

def Style.record (inside : List Record) : Style → Record
  | .strong => ⟨"strong", none, .null, inside⟩
  | .emphasis => ⟨"emphasis", none, .null, inside⟩
  | .link url => ⟨"link", none, .obj [("url", url)], inside⟩

def Group.record (inside : List Record) : Group → Record
  | .paragraph => ⟨"paragraph", none, .null, inside⟩
  | .list none => ⟨"list", none, .null, inside⟩
  | .list (some start) =>
    ⟨"list", none, .obj [("ordered", .bool true), ("start", .int start)], inside⟩
  | .item => ⟨"list_item", none, .null, inside⟩

theorem Style.token_record (style : Style) (inside : List Record) :
    (style.record inside).token = .styled style (Record.tokens inside) := by
  cases style <;> rfl

theorem Group.token_record (group : Group) (inside : List Record) :
    (group.record inside).token = .group group (Record.tokens inside) := by
  rcases group with _ | (_ | start) | _ <;> rfl

mutual

/-- A record that stands for the token. What is dropped has no type. -/
def Token.record : Token → Record
  | .text raw => ⟨"text", some raw, .null, []⟩
  | .softBreak => ⟨"softbreak", none, .null, []⟩
  | .styled style children => style.record (Token.records children)
  | .group g children => g.record (Token.records children)
  | .dropped _ raw children => ⟨"", some raw, .null, Token.records children⟩

def Token.records : List Token → List Record
  | [] => []
  | token :: rest => Token.record token :: Token.records rest

end

theorem transformRun_records (links : LinkAttributes) : (tokens : List Token) →
    (marks : List Mark) → (run : List Char) →
    transformRun links marks run (Record.tokens (Token.records tokens)) =
      transformRun links marks run tokens
  | [], marks, run => by
    rw [Token.records, Record.tokens]
  | .text raw :: rest, marks, run => by
    rw [Token.records, Record.tokens, Token.record]
    exact transformRun_records links rest marks _
  | .softBreak :: rest, marks, run => by
    rw [Token.records, Record.tokens, Token.record]
    exact transformRun_records links rest marks _
  | .styled style children :: rest, marks, run => by
    rw [Token.records, Record.tokens, Token.record, Style.token_record]
    simp only [transformRun, transformToken, transformRun_records links children,
      transformRun_records links rest]
  | .group group children :: rest, marks, run => by
    rw [Token.records, Record.tokens, Token.record, Group.token_record]
    simp only [transformRun, transformToken, transformRun_records links children,
      transformRun_records links rest]
  | .dropped kind raw children :: rest, marks, run => by
    rw [Token.records, Record.tokens, Token.record]
    exact congrArg (leaf marks run ++ ·) (transformRun_records links rest marks [])

/-- A source is read as if its tokens came as records. -/
theorem read_eq_document_records (links : LinkAttributes) (source : String) :
    read links source = document links (Record.tokens (Token.records (tokens source))) := by
  rw [read, document, document, transform, transform, transformRun_records]

end Vitae.Markdown
