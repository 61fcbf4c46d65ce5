import Vitae.Proofs.Document
import Vitae.Proofs.Markdown.Parts

/-!
# Marks of spans

Spans make no nodes. What they leave in a document is marks: a leaf has the marks it inherits, and
after them those of the spans around its run, the outermost first. The blocks of the document are
those of the forest with the spans taken away.
-/

namespace Vitae

namespace Node

/-! ### Inherited marks and blocks -/

mutual

/-- The node with more marks in front of those of every leaf. -/
def under (marks : List Mark) : Node → Node
  | .text content own => .text content (marks ++ own)
  | .branch container children => .branch container (allUnder marks children)

def allUnder (marks : List Mark) : List Node → List Node
  | [] => []
  | child :: rest => under marks child :: allUnder marks rest

end

theorem allUnder_eq_map (marks : List Mark) (nodes : List Node) :
    allUnder marks nodes = nodes.map (under marks) := by
  induction nodes with
  | nil => rw [allUnder, List.map_nil]
  | cons node rest ih => rw [allUnder, ih, List.map_cons]

theorem allUnder_append (marks : List Mark) (a b : List Node) :
    allUnder marks (a ++ b) = allUnder marks a ++ allUnder marks b := by
  rw [allUnder_eq_map, allUnder_eq_map, allUnder_eq_map, List.map_append]

mutual

/-- What is left of a node without its leaves. -/
def blocks : Node → List Node
  | .text .. => []
  | .branch container children => [.branch container (allBlocks children)]

def allBlocks : List Node → List Node
  | [] => []
  | child :: rest => blocks child ++ allBlocks rest

end

theorem allBlocks_append (a b : List Node) : allBlocks (a ++ b) = allBlocks a ++ allBlocks b := by
  induction a with
  | nil => rfl
  | cons node rest ih => rw [List.cons_append, allBlocks, allBlocks, ih, List.append_assoc]

end Node

namespace Markdown

/-! ### Characters and runs -/

def markedChars (leaf : String × List Mark) : List (Char × List Mark) :=
  leaf.1.toList.map fun c => (c, leaf.2)

def openChars (marks : List Mark) (run : List Char) : List (Option (Char × List Mark)) :=
  run.map fun c => some (c, marks)

/-- A character with more marks in front of its own. -/
def inherit (marks : List Mark) : Option (Char × List Mark) → Option (Char × List Mark) :=
  Option.map fun c => (c.1, marks ++ c.2)

theorem inherit_none (marks : List Mark) : inherit marks none = none := rfl

def Part.chars (links : LinkAttributes) :
    Part → List (Option (Char × List Mark)) → List (Option (Char × List Mark))
  | .text run, _ => openChars [] run
  | .span mark, inside => none :: (inside.map (inherit [mark links]) ++ [none])
  | .block _, inside => none :: (inside ++ [none])
  | .nothing, _ => [none]

/-- The characters of a forest, each with the marks of the spans around it, the outermost first.
There is none where what stands before and what stands after belong to different leaves. -/
def Record.chars (links : LinkAttributes) : List Record → List (Option (Char × List Mark)) :=
  gather (Part.chars links)

example : Record.chars ⟨.null, .null⟩
    [⟨"strong", none, .null, [⟨"emphasis", none, .null, [⟨"softbreak", none, .null, []⟩]⟩]⟩] =
    [none, none, some ('\n', [.bold, .italic]), none, none] := rfl

def Part.blocks : Part → List Node → List Node
  | .text _, _ => []
  | .span _, inside => inside
  | .block container, inside => [.branch container inside]
  | .nothing, _ => []

/-- The blocks of a forest, as if spans were not there and what is dropped neither. -/
def Record.blocks : List Record → List Node := gather Part.blocks

/-- The pieces of a list between its gaps, without empty ones. -/
def runs {α : Type} (stream : List (Option α)) : List (List α) :=
  ((stream.splitOnP Option.isNone).map (List.filterMap id)).filter fun run => !run.isEmpty

theorem runs_gap {α : Type} (a b : List (Option α)) : runs (a ++ none :: b) = runs a ++ runs b := by
  rw [runs, List.splitOnP_append_cons a b rfl, List.map_append, List.filter_append]
  rfl

theorem runs_some {α : Type} (run : List α) :
    runs (run.map some) = if run.isEmpty then [] else [run] := by
  have hsome : ∀ x ∈ run.map some, x.isNone = false := by simp
  rw [runs, List.splitOnP_eq_singleton hsome]
  cases run <;> simp

theorem ne_nil_of_mem_runs {α : Type} {run : List α} {stream : List (Option α)}
    (h : run ∈ runs stream) : run ≠ [] := by
  simpa using (List.mem_filter.1 h).2

theorem openChars_nil (marks : List Mark) : openChars marks [] = [] := rfl

theorem openChars_append (marks : List Mark) (a b : List Char) :
    openChars marks (a ++ b) = openChars marks a ++ openChars marks b :=
  List.map_append

theorem map_inherit_openChars (marks : List Mark) (run : List Char) :
    (openChars [] run).map (inherit marks) = openChars marks run := by
  simp [openChars, inherit]

theorem map_inherit_inherit (outer marks : List Mark) (chars : List (Option (Char × List Mark))) :
    (chars.map (inherit marks)).map (inherit outer) = chars.map (inherit (outer ++ marks)) := by
  rw [List.map_map]
  refine List.map_congr_left fun c _ => ?_
  cases c <;> simp [inherit]

theorem marked_leaf (marks : List Mark) (run : List Char) :
    (Node.allLeaves (leaf marks run)).map markedChars = runs (openChars marks run) := by
  have hrun := runs_some (run.map fun c => (c, marks))
  rw [List.map_map] at hrun
  rw [openChars, show (fun c => some (c, marks)) = some ∘ fun c => (c, marks) from rfl, hrun]
  cases run with
  | nil => rfl
  | cons c cs => simp [leaf_cons, Node.allLeaves, Node.leaves, markedChars]

/-! ### Transforming -/

variable (links : LinkAttributes)

theorem leaf_under (outer marks : List Mark) (run : List Char) :
    leaf (outer ++ marks) run = Node.allUnder outer (leaf marks run) := by
  cases run <;> rfl

/-- Marks in front of those that are handed down end up in front of those of every leaf. -/
theorem transformRun_under (outer : List Mark) (records : List Record) : ∀ marks run,
    transformRun links (outer ++ marks) run (Record.tokens records) =
      Node.allUnder outer (transformRun links marks run (Record.tokens records)) := by
  induction records using Record.forest_induction with
  | nil =>
    intro marks run
    exact leaf_under outer marks run
  | cons record rest ihChildren ihRest =>
    intro marks run
    rw [Record.transformRun_cons, Record.transformRun_cons]
    simp only [transform]
    cases record.part with
    | text more => exact ihRest marks (run ++ more)
    | span mark =>
      simp only [Node.allUnder_append, leaf_under, List.append_assoc, ihChildren, ihRest]
    | block container =>
      simp only [Node.allUnder_append, Node.allUnder, Node.under, leaf_under, ihChildren, ihRest]
    | nothing => simp only [Node.allUnder_append, leaf_under, ihRest]

theorem marked_transformRun (records : List Record) : ∀ marks run,
    (Node.allLeaves (transformRun links marks run (Record.tokens records))).map markedChars =
      runs (openChars marks run ++ (Record.chars links records).map (inherit marks)) := by
  induction records using Record.forest_induction with
  | nil =>
    intro marks run
    rw [Record.chars, Record.gather_nil, List.map_nil, List.append_nil]
    exact marked_leaf marks run
  | cons record rest ihChildren ihRest =>
    intro marks run
    -- Inside and after anything but text no run is open.
    have hchildren := fun marks => ihChildren marks []
    have hrest := ihRest marks []
    simp only [openChars_nil, List.nil_append] at hchildren hrest
    rw [Record.transformRun_cons, Record.chars, Record.gather_cons, ← Record.chars]
    simp only [transform]
    cases record.part with
    | text more =>
      dsimp only [Part.chars]
      rw [ihRest, List.map_append, map_inherit_openChars, openChars_append, List.append_assoc]
    | span mark =>
      -- The gaps around the span keep its runs from those before and after it.
      simp only [Part.chars, Node.allLeaves_append, List.map_append, List.map_cons, marked_leaf,
        hchildren, hrest, map_inherit_inherit, inherit_none, List.cons_append, List.append_assoc,
        List.nil_append, runs_gap]
    | block container =>
      simp only [Part.chars, Node.allLeaves_append, Node.allLeaves, Node.leaves, List.map_append,
        List.map_cons, marked_leaf, hchildren, hrest, inherit_none, List.cons_append,
        List.append_assoc, List.nil_append, runs_gap]
    | nothing =>
      simp only [Part.chars, Node.allLeaves_append, List.map_append, List.map_cons, marked_leaf, hrest,
        inherit_none, List.cons_append, List.nil_append, runs_gap]

theorem isView_allBlocks : IsView Node.allBlocks Part.blocks where
  nil := rfl
  append := Node.allBlocks_append
  leaf _ run _ := by cases run <;> rfl
  join _ _ _ := rfl
  span _ _ := rfl
  branch _ _ := rfl
  nothing _ := rfl

/-- What spans do: inherited marks come first in every leaf; the leaves are the runs of the forest's
characters, each of which has the marks of the spans around it; and the blocks are those of the
forest without its spans. -/
theorem transform_spans (marks : List Mark) (records : List Record) :
    transform links marks (Record.tokens records) =
      (transform links [] (Record.tokens records)).map (Node.under marks) ∧
    (Node.allLeaves (transform links marks (Record.tokens records))).map markedChars =
      runs ((Record.chars links records).map (inherit marks)) ∧
    Node.allBlocks (transform links marks (Record.tokens records)) = Record.blocks records := by
  refine ⟨?_, marked_transformRun links records marks [],
    isView_allBlocks.transform_eq links marks records⟩
  have hunder := transformRun_under links marks records [] []
  rw [List.append_nil, Node.allUnder_eq_map] at hunder
  exact hunder

end Markdown

end Vitae
