import Mathlib.Data.List.SplitBy
import Vitae.Proofs.Markdown.Marks

/-!
# Runs of text

A document holds the text of its forest, in order and no piece of it twice. Neighbouring texts and
line breaks make one leaf, unless nothing is in them; every other token ends the leaf before it. A
dropped token leaves no trace of what it holds.
-/

namespace Vitae.Markdown

/-! ### Text -/

def Part.plainText : Part → List Char → List Char
  | .text run, _ => run
  | .span _, inside => inside
  | .block _, inside => inside
  | .nothing, _ => []

/-- The text of a forest: every text decoded on its own and a line feed for every line break. Only
spans and blocks are looked into, and so not what is dropped. -/
def Record.plainText : List Record → List Char := gather Part.plainText

theorem isView_plainText : IsView (List.flatMap Node.plainText) Part.plainText where
  nil := rfl
  append _ _ := List.flatMap_append
  leaf _ run _ := by cases run <;> simp [leaf, Node.plainText, Node.leaves, Part.plainText]
  join _ _ _ := rfl
  span _ _ := rfl
  branch container children := by
    rw [List.flatMap_singleton, Node.plainText_branch]
    rfl
  nothing _ := rfl

variable (links : LinkAttributes) (marks : List Mark)

theorem content_ne_empty (records : List Record) :
    ∀ leaf ∈ Node.allLeaves (transform links marks (Record.tokens records)), leaf.1 ≠ "" := by
  intro leaf hleaf hempty
  have hmem : markedChars leaf ∈
      runs (openChars marks [] ++ (Record.chars links records).map (inherit marks)) := by
    rw [← marked_transformRun]
    exact List.mem_map_of_mem hleaf
  refine ne_nil_of_mem_runs hmem ?_
  rw [markedChars, hempty]
  rfl

/-! ### Siblings -/

namespace Record

def joinsRun (record : Record) : Bool :=
  match record.part with
  | .text _ => true
  | _ => false

def ownText (record : Record) : List Char :=
  match record.part with
  | .text run => run
  | _ => []

def nodes (record : Record) : List Node :=
  match record.part with
  | .text _ => []
  | .span mark => transform links (marks ++ [mark links]) (tokens record.children)
  | .block container => [.branch container (transform links marks (tokens record.children))]
  | .nothing => []

def joins (before after : Record) : Bool := before.joinsRun && after.joinsRun

/-- The nodes of neighbours: one leaf for a run with text in it, and none for one without. -/
def groupNodes (group : List Record) : List Node :=
  if group.all joinsRun then
    if group.flatMap ownText = [] then []
    else [.text (String.ofList (group.flatMap ownText)) marks]
  else group.flatMap (nodes links marks)

/-- The nodes of siblings, split into maximal runs and single other tokens. -/
def siblingNodes (records : List Record) : List Node :=
  (records.splitBy joins).flatMap (groupNodes links marks)

theorem transformRun_of_joinsRun {record : Record} (h : record.joinsRun = true) (run : List Char)
    (rest : List Record) : transformRun links marks run (tokens (record :: rest)) =
      transformRun links marks (run ++ record.ownText) (tokens rest) := by
  rw [transformRun_cons]
  unfold joinsRun at h
  unfold ownText
  cases hpart : record.part <;> simp_all

theorem transformRun_of_not_joinsRun {record : Record} (h : record.joinsRun = false)
    (run : List Char) (rest : List Record) :
    transformRun links marks run (tokens (record :: rest)) =
      leaf marks run ++ (record.nodes links marks ++ transform links marks (tokens rest)) := by
  rw [transformRun_cons]
  unfold joinsRun at h
  unfold nodes
  cases hpart : record.part <;> simp_all

theorem siblingNodes_append {a b : List Record}
    (h : ∀ x ∈ a.getLast?, ∀ y ∈ b.head?, joins x y = false) :
    siblingNodes links marks (a ++ b) = siblingNodes links marks a ++ siblingNodes links marks b := by
  rw [siblingNodes, List.splitBy_append h, List.flatMap_append]
  rfl

theorem siblingNodes_run {group : List Record} (h : ∀ record ∈ group, record.joinsRun = true) :
    siblingNodes links marks group = leaf marks (group.flatMap ownText) := by
  by_cases hgroup : group = []
  · subst hgroup
    rfl
  · have hchain : group.IsChain fun a b => joins a b = true := by
      refine (List.pairwise_of_forall_mem_list fun a ha b hb => ?_).isChain
      rw [joins, h a ha, h b hb, Bool.and_self]
    rw [siblingNodes, List.splitBy_of_isChain hgroup hchain, List.flatMap_singleton, groupNodes,
      if_pos (List.all_eq_true.2 h)]
    cases group.flatMap ownText <;> rfl

theorem siblingNodes_single {record : Record} (h : record.joinsRun = false) :
    siblingNodes links marks [record] = record.nodes links marks := by
  rw [siblingNodes, List.splitBy_of_isChain (List.cons_ne_nil record []) (List.isChain_singleton record),
    List.flatMap_singleton, groupNodes, if_neg (by simp [h]), List.flatMap_singleton]

theorem transformRun_siblings (records : List Record) : ∀ passed : List Record,
    (∀ record ∈ passed, record.joinsRun = true) →
    transformRun links marks (passed.flatMap ownText) (tokens records) =
      siblingNodes links marks (passed ++ records) := by
  -- Generalized over the records that have been passed, whose text is the run still open.
  induction records with
  | nil =>
    intro passed hpassed
    rw [List.append_nil, siblingNodes_run links marks hpassed]
    rfl
  | cons record rest ih =>
    intro passed hpassed
    cases hjoins : record.joinsRun with
    | true =>
      have hlonger : ∀ r ∈ passed ++ [record], r.joinsRun = true := by
        simpa [or_imp, forall_and, hjoins] using hpassed
      have htext : passed.flatMap ownText ++ record.ownText = (passed ++ [record]).flatMap ownText := by
        simp
      rw [transformRun_of_joinsRun links marks hjoins, htext, ih _ hlonger, List.append_assoc]
      rfl
    | false =>
      -- The run ends here, and nothing after this record joins it.
      have hrest : transform links marks (tokens rest) = siblingNodes links marks rest :=
        ih [] (by simp)
      have hbefore : ∀ x ∈ passed.getLast?, ∀ y ∈ (record :: rest).head?, joins x y = false := by
        intro x _ y hy
        obtain rfl : record = y := by simpa using hy
        rw [joins, hjoins, Bool.and_false]
      have hafter : ∀ x ∈ [record].getLast?, ∀ y ∈ rest.head?, joins x y = false := by
        intro x hx y _
        obtain rfl : record = x := by simpa using hx
        rw [joins, hjoins, Bool.false_and]
      rw [transformRun_of_not_joinsRun links marks hjoins, siblingNodes_append links marks hbefore,
        siblingNodes_run links marks hpassed, ← List.singleton_append,
        siblingNodes_append links marks hafter, siblingNodes_single links marks hjoins, hrest]

end Record

/-! ### Dropped tokens -/

/-- Do two forests differ in dropped tokens alone? Of these one may stand for another. -/
inductive Record.Alike : List Record → List Record → Prop where
  | nil : Alike [] []
  | dropped {a b : Record} {as bs : List Record} :
      a.kind ∉ kinds → b.kind ∉ kinds → Alike as bs → Alike (a :: as) (b :: bs)
  | kept {kind : String} {raw : Option String} {attrs : Json} {inside other as bs : List Record} :
      Alike inside other → Alike as bs →
      Alike (⟨kind, raw, attrs, inside⟩ :: as) (⟨kind, raw, attrs, other⟩ :: bs)

theorem transformRun_of_alike {a b : List Record} (h : Record.Alike a b) : ∀ marks run,
    transformRun links marks run (Record.tokens a) =
      transformRun links marks run (Record.tokens b) := by
  induction h with
  | nil =>
    intro marks run
    rfl
  | dropped ha hb _ ih =>
    intro marks run
    rw [Record.transformRun_cons, Record.transformRun_cons, Record.part_of_notMem_kinds ha,
      Record.part_of_notMem_kinds hb]
    simp only [transform, ih]
  | @kept kind raw attrs inside other as bs _ _ ihInside ih =>
    intro marks run
    have hpart : (⟨kind, raw, attrs, inside⟩ : Record).part =
        (⟨kind, raw, attrs, other⟩ : Record).part := rfl
    rw [Record.transformRun_cons, Record.transformRun_cons, hpart]
    simp only [transform, ihInside, ih]

/-- What becomes of text: all of it is there in order, no leaf is empty, siblings give one leaf for
each of their runs, and dropped tokens do not matter. -/
theorem transform_runs (records : List Record) :
    (transform links marks (Record.tokens records)).flatMap Node.plainText =
      Record.plainText records ∧
    (∀ leaf ∈ Node.allLeaves (transform links marks (Record.tokens records)), leaf.1 ≠ "") ∧
    transform links marks (Record.tokens records) =
      Record.siblingNodes links marks records ∧
    ∀ others, Record.Alike records others →
      document links (Record.tokens others) = document links (Record.tokens records) := by
  refine ⟨isView_plainText.transform_eq links marks records, content_ne_empty links marks records,
    Record.transformRun_siblings links marks records [] (by simp), fun others halike => ?_⟩
  rw [document, document, transform, transform, transformRun_of_alike links halike]

/-- A paragraph with a token between texts of which none is a character reference by itself. -/
def aroundToken (token : Record) : List Record :=
  [⟨"paragraph", none, .null, [⟨"text", some "R&am", .null, []⟩, ⟨"text", some "p;D", .null, []⟩,
    token, ⟨"softbreak", none, .null, []⟩,
    ⟨"strong", none, .null, [⟨"text", some "", .null, []⟩]⟩]⟩]

theorem transform_runs_around_code :
    document ⟨.null, .null⟩ (Record.tokens
        (aroundToken ⟨"image", none, .obj [("url", .str "u")], [⟨"text", some "x", .null, []⟩]⟩)) =
      document ⟨.null, .null⟩ (Record.tokens (aroundToken ⟨"codespan", some "y", .null, []⟩)) :=
  (transform_runs ⟨.null, .null⟩ [] _).2.2.2 _
    (.kept (.kept .nil (.kept .nil (.dropped (by decide) (by decide)
      (.kept .nil (.kept (.kept .nil .nil) .nil))))) .nil)

end Vitae.Markdown
