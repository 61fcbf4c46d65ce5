import Vitae.Markdown.Reference
import Vitae.Markdown.Start
import Vitae.Text.Lines

/-!
# Blocks of a source

A source is read line by line. What has been opened and not closed is kept as an `Outline`: the open
containers from the innermost to the outermost, each with the blocks it holds so far, and the open
leaf inside them. A line first continues containers, then starts new ones, and what is left of it
goes to a leaf.

Paragraphs and lists are kept, every other block only counts as present. A paragraph gives up the
definitions at its start when it closes.

A line may continue a container without its marker. If the leaf is a paragraph, every line that
starts no block does. Otherwise a list item goes on until a blank line, and so does a quote whose
content has started and is no code.
-/

namespace Vitae.Markdown

/-- A block: a paragraph with its source text, a list with its items, or something else. The number
of a list's first item is none for a bullet list. -/
inductive Block where
  | paragraph (source : List Char)
  | list (start : Option Nat) (items : List (List Block))
  | other
  deriving Repr, Inhabited

/-- The open leaf: its lines if it is a paragraph, from the last to the first. -/
inductive Leaf where
  | none
  | paragraph (lines : List (List Char))
  | fence (mark : Char) (size : Nat)
  | html (ending : HtmlEnd)
  deriving Repr

/-- An open container. A list frame that is innermost has no open item. A quote takes lines without
its marker unless it starts with a blank line or with code. -/
inductive Frame where
  | quote (takesLoose : Bool)
  | list (mark : Char) (start : Option Nat) (items : List (List Block))
  | item (width : Nat) (blocks : List Block)
  deriving Repr

/-- What is open: the frames from the innermost to the outermost, the leaf, the finished blocks
outside of all frames and the definitions so far. Blocks and items are listed from the last to the
first. `afterBlank` holds after a blank line, `afterBlankRest` also after a line that is blank
behind its markers. -/
structure Outline where
  frames : List Frame := []
  leaf : Leaf := .none
  blocks : List Block := []
  definitions : List Definition := []
  afterBlank : Bool := true
  afterBlankRest : Bool := true
  deriving Repr

namespace Outline

/-! ### Closing -/

def place (b : Block) (frames : List Frame) (blocks : List Block) : List Frame × List Block :=
  match frames with
  | [] => ([], b :: blocks)
  | .item width own :: rest => (.item width (b :: own) :: rest, blocks)
  | other => (other, blocks)

/-- The outline with a block added to the innermost container. Of a quote only its presence counts. -/
def add (o : Outline) (b : Block) : Outline :=
  let (frames, blocks) := place b o.frames o.blocks
  { o with frames, blocks }

def paragraphText (lines : List (List Char)) : List Char := Text.unlines lines.reverse

def closeLeaf (o : Outline) : Outline :=
  match o.leaf with
  | .paragraph lines =>
    let (definitions, rest) := splitDefinitions (paragraphText lines)
    let o := { o with leaf := .none, definitions := o.definitions ++ definitions }
    if isRestBlank rest then o else o.add (.paragraph rest)
  | _ => { o with leaf := .none }

def closeFrame (o : Outline) : Outline :=
  match o.frames with
  | [] => o
  | .quote _ :: rest => { o with frames := rest }.add .other
  | .list _ start items :: rest => { o with frames := rest }.add (.list start items.reverse)
  | .item _ blocks :: .list mark start items :: rest =>
    { o with frames := .list mark start (blocks.reverse :: items) :: rest }
  | .item _ _ :: rest => { o with frames := rest }

def closeFrames : Nat → Outline → Outline
  | 0, o => o
  | n + 1, o => closeFrames n o.closeFrame

/-- The outline with all but the outermost `keep` frames closed, and with them the leaf. -/
def closeTo (o : Outline) (keep : Nat) : Outline :=
  if keep < o.frames.length then closeFrames (o.frames.length - keep) o.closeLeaf else o

def closeList (o : Outline) : Outline :=
  match o.frames with
  | .list .. :: _ => o.closeFrame
  | _ => o

def finish (o : Outline) : List Block × List Definition :=
  let o := closeFrames o.frames.length o.closeLeaf
  (o.blocks.reverse, o.definitions)

/-! ### Continuing containers -/

def inParagraph (o : Outline) : Bool :=
  match o.leaf with
  | .paragraph _ => true
  | _ => false

/-- Is an item without blocks innermost, and no leaf open? -/
def isItemEmpty (o : Outline) : Bool :=
  match o.frames, o.leaf with
  | .item _ [] :: _, .none => true
  | _, _ => false

def quoteRest (l : Line) : Line := (l.advance 1).dedent 1

def isQuoted (l : Line) : Bool := l.indent < 4 && l.head? == some '>'

/-- Takes from a line what continues frames, given from the outermost to the innermost: their number
and what is left. A blank line continues an item unless it is the second line of an empty one. -/
def continueFrames (emptyItem : Bool) : List Frame → Line → Nat × Line
  | [], l => (0, l)
  | .quote _ :: rest, l =>
    if isQuoted l then
      let (n, l) := continueFrames emptyItem rest (quoteRest l)
      (n + 1, l)
    else (0, l)
  | .list .. :: rest, l =>
    let (n, l) := continueFrames emptyItem rest l
    (n + 1, l)
  | .item width _ :: rest, l =>
    if l.isBlank then
      if rest.isEmpty ∧ emptyItem then (0, l)
      else
        let (n, l) := continueFrames emptyItem rest l
        (n + 1, l)
    else if width ≤ l.indent then
      let (n, l) := continueFrames emptyItem rest (l.dedent width)
      (n + 1, l)
    else (0, l)

/-- Does a frame take a line that neither continues it nor starts a block? -/
def takesLoose (o : Outline) : Frame → Bool
  | .item .. => true
  | .list .. => true
  | .quote takes => takes && !o.afterBlankRest

/-- How many frames go on with a line that starts no block, of which it continues the outermost
`matched`. -/
def looselyMatched (o : Outline) (matched : Nat) : Nat :=
  if o.inParagraph then o.frames.length
  else if o.afterBlank then matched
  else matched + ((o.frames.reverse.drop matched).takeWhile o.takesLoose).length

/-! ### Lines -/

def addText (o : Outline) (l : Line) : Outline :=
  match o.leaf with
  | .paragraph lines =>
    if isUnderline l.text ∧ l.indent < 4 then
      let (definitions, rest) := splitDefinitions (paragraphText lines)
      if isRestBlank rest then { o with leaf := .paragraph (l.text :: lines) }
      else { o with leaf := .none, definitions := o.definitions ++ definitions }.add .other
    else { o with leaf := .paragraph (l.text :: lines) }
  | .fence mark size => if closesFence mark size l then { o with leaf := .none } else o
  | .html ending => if ending.reachedIn l.text then { o with leaf := .none } else o
  | .none =>
    if l.isBlank then o
    else if 4 ≤ l.indent then o.closeList.add .other
    else { o.closeList with leaf := .paragraph [l.text] }

/-- The outline before a block that starts on this line: with all but `matched` frames closed, and
the leaf. -/
def interrupt (o : Outline) (matched : Nat) : Outline := (o.closeTo matched).closeLeaf

def openItem (o : Outline) (m : Marker) : Outline :=
  match o.frames with
  | .list mark start items :: rest =>
    if mark = m.mark then { o with frames := .item m.width [] :: .list mark start items :: rest }
    else
      let o := o.closeFrame
      { o with frames := .item m.width [] :: .list m.mark m.number [] :: o.frames }
  | frames => { o with frames := .item m.width [] :: .list m.mark m.number [] :: frames }

/-- Reads what is left of a line that continues the outermost `matched` frames: the containers it
opens, then one leaf. Every container takes a character, so `fuel` of the length of the line and one
more is not used up. -/
def startBlocks (fuel : Nat) (o : Outline) (matched : Nat) (l : Line) : Outline :=
  match fuel with
  | 0 => o
  | fuel + 1 =>
    let continuesParagraph := o.inParagraph && matched == o.frames.length
    let opensNothing := 4 ≤ l.indent || l.isBlank
    let loose := fun (_ : Unit) =>
      let o := o.closeTo (o.looselyMatched matched)
      { o.addText l with afterBlankRest := false }
    if opensNothing then
      if l.isBlank then o.closeTo matched else loose ()
    else if isQuoted l then
      let o := (o.interrupt matched).closeList
      let rest := quoteRest l
      let takes := !(rest.isBlank || 4 ≤ rest.indent || (fence? rest.text).isSome)
      let o := { o with frames := .quote takes :: o.frames, afterBlankRest := rest.isBlank }
      startBlocks fuel o o.frames.length rest
    else if isHeading l.text then
      { (o.interrupt matched).closeList.add .other with afterBlankRest := false }
    else
      match fence? l.text with
      | some (mark, size) =>
        let o := (o.interrupt matched).closeList.add .other
        { o with leaf := .fence mark size, afterBlankRest := false }
      | none =>
        match htmlStart? o.inParagraph l.text with
        | some ending =>
          let o := (o.interrupt matched).closeList.add .other
          let leaf := if ending.reachedIn l.text then .none else .html ending
          { o with leaf, afterBlankRest := false }
        | none =>
          if continuesParagraph ∧ isUnderline l.text ∧
              !isRestBlank (splitDefinitions (match o.leaf with
                | .paragraph lines => paragraphText lines
                | _ => [])).2 then
            { o.addText l with afterBlankRest := false }
          else if isThematicBreak l.text then
            { (o.interrupt matched).closeList.add .other with afterBlankRest := false }
          else
            match marker? continuesParagraph l with
            | some m =>
              let o := (o.interrupt matched).openItem m
              let o := { o with afterBlankRest := m.content.isBlank }
              startBlocks fuel o o.frames.length m.content
            | none => loose ()

/-- A white line that goes on with a paragraph outside of all containers: it is indented like code
and has a character more than that. -/
def isWhiteText (o : Outline) (cs : List Char) : Bool :=
  o.inParagraph && o.frames.isEmpty &&
    match cs with
    | ' ' :: ' ' :: ' ' :: ' ' :: _ :: _ => true
    | _ =>
      match cs.dropWhile (· == ' ') with
      | '\t' :: _ :: _ => true
      | _ => false

def readBlank (o : Outline) (matched : Nat) (l : Line) : Outline :=
  let o := o.closeTo matched
  let o := match o.leaf with
    | .fence .. => o.addText l
    | .html .blank => o.closeLeaf
    | .html _ => o
    | _ => o.closeLeaf
  { o with afterBlankRest := true }

/-- Reads a line that continues the outermost `matched` frames. A code block or HTML takes it as it
is if all frames go on. -/
def readRest (o : Outline) (matched : Nat) (l : Line) : Outline :=
  if l.isBlank then o.readBlank matched l
  else if matched = o.frames.length then
    match o.leaf with
    | .fence .. => { o.addText l with afterBlankRest := false }
    | .html _ => { o.addText l with afterBlankRest := false }
    | _ => startBlocks (l.text.length + 1) o matched l
  else startBlocks (l.text.length + 1) o matched l

def readLine (o : Outline) (cs : List Char) : Outline :=
  let l := Line.ofChars cs
  if o.isWhiteText cs ∧ l.isBlank then o.addText l
  else
    let (matched, rest) := continueFrames o.isItemEmpty o.frames.reverse l
    { o.readRest matched rest with afterBlank := l.isBlank }

end Outline

def readBlocks (source : List Char) : List Block × List Definition :=
  ((Text.lines (Text.normalizeBreaks source)).foldl Outline.readLine {}).finish

end Vitae.Markdown
