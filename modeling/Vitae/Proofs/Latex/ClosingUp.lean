import Mathlib.Data.List.Infix
import Vitae.Compile
import Vitae.Proofs.Text.Thinning

/-!
# Closing up list items

What it does to a document that every list item gives up the first blank line inside it. Items are
closed up after the items inside them, so the line that an outer one gives up may be one of any
leaf, of a paragraph's end or of what inner items have left. But an item takes out one line feed at
most, and one next to another: the lines that hold something stay as they are.
-/

namespace Vitae

/-! ### The items of a document -/

def Container.items : Container Int → Nat
  | .listItem => 1
  | _ => 0

namespace Node

mutual

/-- How many list items are in a tree, those inside other items included. -/
def items : Node → Nat
  | .text .. => 0
  | .branch container children => container.items + allItems children

def allItems : List Node → Nat
  | [] => 0
  | child :: rest => items child + allItems rest

end

end Node

/-! ### Computations side by side -/

/-- Two computations fail alike, or both have results, which are so related. -/
inductive Abreast {α β : Type} (R : α → β → Prop) : Except Failure α → Except Failure β → Prop
  | error (e : Failure) : Abreast R (.error e) (.error e)
  | ok {a : α} {b : β} (h : R a b) : Abreast R (.ok a) (.ok b)

namespace Abreast

variable {α β γ δ : Type} {R : α → β → Prop} {S : γ → δ → Prop} {x : Except Failure α}
  {y : Except Failure β}

theorem mono {S : α → β → Prop} (h : Abreast R x y) (hRS : ∀ a b, R a b → S a b) :
    Abreast S x y := by
  cases h with
  | error e => exact .error e
  | ok hab => exact .ok (hRS _ _ hab)

theorem refl {R : α → α → Prop} (h : ∀ a, R a a) (x : Except Failure α) : Abreast R x x := by
  cases x with
  | error e => exact .error e
  | ok a => exact .ok (h a)

theorem map {f : α → γ} {g : β → δ} (h : Abreast R x y) (hfg : ∀ a b, R a b → S (f a) (g b)) :
    Abreast S (x.map f) (y.map g) := by
  cases h with
  | error e => exact .error e
  | ok hab => exact .ok (hfg _ _ hab)

theorem bind {f : α → Except Failure γ} {g : β → Except Failure δ} (h : Abreast R x y)
    (hfg : ∀ a b, R a b → Abreast S (f a) (g b)) : Abreast S (x.bind f) (y.bind g) := by
  cases h with
  | error e => exact .error e
  | ok hab => exact hfg _ _ hab

end Abreast

namespace Latex

/-! ### Rendering with items closed up in any way -/

section

variable (close : List Char → List Char)

def encloseWith : Container Int → Bool → List Char → List Char
  | .listItem, _, body => "\\item ".toList ++ close body
  | container, childless, body => enclose container childless body

mutual

/-- Rendering as it is but for list items, the insides of which are changed by `close`. -/
def renderWith (style : Style) (underline : Bool) : Node → Except Failure (List Char)
  | .text content marks => applyMarks style underline (style.text content.toList) marks
  | .branch container children =>
    (renderAllWith style underline children).map (encloseWith close container children.isEmpty)

def renderAllWith (style : Style) (underline : Bool) : List Node → Except Failure (List Char)
  | [] => .ok []
  | child :: rest =>
    (renderWith style underline child).bind fun text =>
      (renderAllWith style underline rest).map (text ++ ·)

end

/-- What the writer makes of a document if it closes up list items in this way. -/
def generateWith (options : Options) (value : Json) (node : Node) : Except Failure String :=
  match Context.ofValue value with
  | .ok context =>
    (renderWith close (latexStyle options) context.linkUnderline node).map String.ofList
  | .error e => .error e

end

theorem encloseWith_closeUp (container : Container Int) (childless : Bool) :
    encloseWith closeUp container childless = enclose container childless := by
  cases container <;> rfl

mutual

theorem renderWith_closeUp (style : Style) (underline : Bool) : (node : Node) →
    renderWith closeUp style underline node = render style underline node
  | .text content marks => by rw [renderWith, render]
  | .branch container children => by
    rw [renderWith, render, encloseWith_closeUp, renderAllWith_closeUp style underline children]

theorem renderAllWith_closeUp (style : Style) (underline : Bool) : (nodes : List Node) →
    renderAllWith closeUp style underline nodes = renderAll style underline nodes
  | [] => rfl
  | child :: rest => by
    rw [renderAllWith, renderAll, renderWith_closeUp style underline child,
      renderAllWith_closeUp style underline rest]
    cases render style underline child <;> rfl

end

/-- The writer is the one that closes up. -/
theorem generateWith_closeUp (options : Options) (value : Json) (node : Node) :
    generateWith closeUp options value node = Writer.generate ⟨.latex, options⟩ value node := by
  unfold generateWith Writer.generate
  cases Context.ofValue value with
  | error e => rfl
  | ok context => simp only [renderWith_closeUp, Writer.write]

/-! ### What closing up takes out -/

/-- How many line feeds are taken out when a text is closed up: one if a blank line is in it. -/
def gap (cs : List Char) : Nat := if ['\n', '\n'] <:+: cs then 1 else 0

theorem gap_le_one (cs : List Char) : gap cs ≤ 1 := by
  unfold gap
  split
  · exact Nat.le_refl 1
  · exact Nat.zero_le 1

theorem thins_closeUp (cs : List Char) : Text.Thins (gap cs) cs (closeUp cs) := by
  induction cs using closeUp.induct with
  | case1 cs =>
    have hgap : gap ('\n' :: '\n' :: cs) = 1 := if_pos ⟨[], cs, rfl⟩
    have hall : Text.Thins 0 ('\n' :: '\n' :: cs) ([] ++ '\n' :: '\n' :: cs) := .refl _
    rw [hgap]
    exact hall.step
  | case2 c cs hne ih =>
    have hfirst : ¬ ['\n', '\n'] <+: c :: cs := by
      rintro ⟨rest, hrest⟩
      cases hrest
      exact hne rest rfl rfl
    have hgap : gap (c :: cs) = gap cs := by
      simp only [gap, List.infix_cons_iff, hfirst, false_or]
    rw [hgap, closeUp]
    · exact ih.cons c
    · exact hne
  | case3 => exact .refl []

def gapIn : Container Int → List Char → Nat
  | .listItem, body => gap body
  | _, _ => 0

mutual

/-- How many list items have a blank line inside after the items in them are closed up. -/
def gaps (style : Style) (underline : Bool) : Node → Nat
  | .text .. => 0
  | .branch container children =>
    match renderAll style underline children with
    | .ok body => gapIn container body + allGaps style underline children
    | .error _ => 0

def allGaps (style : Style) (underline : Bool) : List Node → Nat
  | [] => 0
  | child :: rest => gaps style underline child + allGaps style underline rest

end

theorem gapIn_le_items (container : Container Int) (body : List Char) :
    gapIn container body ≤ container.items := by
  cases container with
  | listItem => exact gap_le_one body
  | _ => exact Nat.le_refl 0

mutual

theorem gaps_le_items (style : Style) (underline : Bool) : (node : Node) →
    gaps style underline node ≤ node.items
  | .text content marks => Nat.le_refl 0
  | .branch container children => by
    have hall := allGaps_le_allItems style underline children
    rw [gaps, Node.items]
    cases renderAll style underline children with
    | error e => exact Nat.zero_le _
    | ok body => exact Nat.add_le_add (gapIn_le_items container body) hall

theorem allGaps_le_allItems (style : Style) (underline : Bool) : (nodes : List Node) →
    allGaps style underline nodes ≤ Node.allItems nodes
  | [] => Nat.le_refl 0
  | child :: rest =>
    Nat.add_le_add (gaps_le_items style underline child)
      (allGaps_le_allItems style underline rest)

end

section

variable {n : Nat} {loose tight : List Char}

theorem thins_environment (name : String) (h : Text.Thins n loose tight) :
    Text.Thins n (environment name loose) (environment name tight) := by
  have hend := h.append_right (command "end" name.toList ++ ['\n'])
  exact (hend.cons '\n').append_left (command "begin" name.toList)

/-- In an empty paragraph no text stands that could be thinned. -/
theorem thins_enclose (container : Container Int) {childless : Bool}
    (h : Text.Thins n loose tight) (hchildless : childless = true → n = 0) :
    Text.Thins (gapIn container tight + n) (encloseWith id container childless loose)
      (enclose container childless tight) := by
  have hrest : Text.Thins (0 + n) loose tight := (Nat.zero_add n).symm ▸ h
  cases container with
  | listItem =>
    have hbody : Text.Thins (n + gap tight) loose (closeUp tight) := h.trans (thins_closeUp tight)
    rw [Nat.add_comm] at hbody
    exact hbody.append_left "\\item ".toList
  | doc => exact hrest
  | paragraph =>
    cases childless with
    | true =>
      rw [hchildless rfl]
      exact .refl ['\n']
    | false => exact hrest.append_right ['\n', '\n']
  | bulletList => exact thins_environment "itemize" hrest
  | orderedList start => exact thins_environment "enumerate" hrest

end

mutual

/-- A tree loses a line feed for every list item that has a blank line inside. -/
theorem render_abreast (style : Style) (underline : Bool) : (node : Node) →
    Abreast (Text.Thins (gaps style underline node)) (renderWith id style underline node)
      (render style underline node)
  | .text content marks => by
    rw [renderWith, render]
    exact .refl Text.Thins.refl _
  | .branch container children => by
    have hall := renderAll_abreast style underline children
    have hchildless : children.isEmpty = true → allGaps style underline children = 0 := by
      intro hempty
      rw [List.isEmpty_iff.1 hempty]
      rfl
    rw [renderWith, render, gaps]
    generalize renderAllWith id style underline children = x at hall ⊢
    generalize renderAll style underline children = y at hall ⊢
    cases hall with
    | error e => exact .error e
    | ok h => exact .ok (thins_enclose container h hchildless)

theorem renderAll_abreast (style : Style) (underline : Bool) : (nodes : List Node) →
    Abreast (Text.Thins (allGaps style underline nodes)) (renderAllWith id style underline nodes)
      (renderAll style underline nodes)
  | [] => .ok (.refl _)
  | child :: rest => by
    have hchild := render_abreast style underline child
    have hrest := renderAll_abreast style underline rest
    have hrender : renderAll style underline (child :: rest) =
        (render style underline child).bind fun text =>
          (renderAll style underline rest).map (text ++ ·) := by
      rw [renderAll]
      cases render style underline child <;> rfl
    rw [renderAllWith, hrender]
    exact hchild.bind fun loose tight h => hrest.map fun looseRest tightRest hr => h.append hr

end

/-! ### Writers -/

/-- The list items with a blank line inside in a document under a context given as a value. -/
def gapsUnder (options : Options) (value : Json) (node : Node) : Nat :=
  match Context.ofValue value with
  | .ok context => gaps (latexStyle options) context.linkUnderline node
  | .error _ => 0

theorem gapsUnder_le_items (options : Options) (value : Json) (node : Node) :
    gapsUnder options value node ≤ node.items := by
  unfold gapsUnder
  split
  · exact gaps_le_items _ _ node
  · exact Nat.zero_le _

theorem generate_abreast (options : Options) (value : Json) (node : Node) :
    Abreast
      (fun loose tight => Text.Thins (gapsUnder options value node) loose.toList tight.toList)
      (generateWith id options value node) (Writer.generate ⟨.latex, options⟩ value node) := by
  unfold generateWith Writer.generate gapsUnder
  cases Context.ofValue value with
  | error e => exact .error e
  | ok context =>
    have hrender := render_abreast (latexStyle options) context.linkUnderline node
    refine hrender.map fun loose tight h => ?_
    rw [String.toList_ofList, String.toList_ofList]
    exact h

/-- Closing up list items takes blank lines out and does nothing else. Where the writer fails it
fails without closing up as well, and in the same way. Otherwise what it writes comes from what it
would write without closing up by taking out line feeds next to others: one for every list item that
has a blank line inside, and so not more than there are list items. But for the lengths of runs of
line feeds both texts are the same, every line of the one is a line of the other, in the same order,
and the lines that are not empty are the same. -/
theorem generate_closes_up (options : Options) (value : Json) (node : Node) :
    generateWith closeUp options value node = Writer.generate ⟨.latex, options⟩ value node ∧
    gapsUnder options value node ≤ node.items ∧
    Abreast
      (fun loose tight =>
        Text.Thins (gapsUnder options value node) loose.toList tight.toList ∧
        Text.squeeze tight.toList = Text.squeeze loose.toList ∧
        (Text.lines tight.toList).Sublist (Text.lines loose.toList) ∧
        (Text.lines tight.toList).filter (!·.isEmpty) =
          (Text.lines loose.toList).filter (!·.isEmpty))
      (generateWith id options value node) (Writer.generate ⟨.latex, options⟩ value node) := by
  refine ⟨generateWith_closeUp options value node, gapsUnder_le_items options value node, ?_⟩
  have hthins := generate_abreast options value node
  exact hthins.mono fun loose tight h => ⟨h, h.squeeze_eq, h.lines_sublist, h.filter_lines_eq⟩

/-- The inner item gives up the line after its first paragraph, the outer one that after the second. -/
def listed : Node :=
  .branch .listItem [.branch .bulletList [.branch .listItem [.branch .paragraph [.text "a" []],
    .branch .paragraph [.text "b" []], .branch .paragraph [.text "c" []]]]]

example : generateWith id (.default .latexWriter) .null listed =
    .ok "\\item \\begin\x7bitemize\x7d\n\\item a\n\nb\n\nc\n\n\\end\x7bitemize\x7d\n" := rfl

example : Writer.generate ⟨.latex, .default .latexWriter⟩ .null listed =
    .ok "\\item \\begin\x7bitemize\x7d\n\\item a\nb\nc\n\n\\end\x7bitemize\x7d\n" := rfl

end Latex

end Vitae
