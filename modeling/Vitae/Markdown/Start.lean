import Vitae.Markdown.Line
import Vitae.Markdown.Tag
import Vitae.Text.Blank

/-!
# How blocks start

What the first characters of a line open: a quote, a heading, a fence, HTML, a break or a list item.
A line indented by four columns or more opens none of them.
-/

namespace Vitae.Markdown

/-! ### Single lines -/

/-- A text that is nothing but white space to the end of the line. -/
def isRestBlank (cs : List Char) : Bool := cs.all Line.isFiller

def isThematicBreak (cs : List Char) : Bool :=
  match cs with
  | c :: _ =>
    (c == '*' || c == '-' || c == '_') && cs.all (fun d => d == c || d == ' ' || d == '\t') &&
      3 ≤ cs.count c
  | [] => false

def isHeading (cs : List Char) : Bool :=
  let size := (cs.takeWhile (· == '#')).length
  1 ≤ size && size ≤ 6 &&
    match cs.drop size with
    | [] => true
    | c :: _ => c == ' ' || c == '\t'

def isUnderline (cs : List Char) : Bool :=
  match cs with
  | c :: _ =>
    (c == '=' || c == '-') && (cs.dropWhile (· == c)).all fun d => d == ' ' || d == '\t'
  | [] => false

/-! ### Fences -/

/-- The fence that opens a code block: its mark and length. What follows backticks holds none. -/
def fence? (cs : List Char) : Option (Char × Nat) :=
  match cs with
  | c :: _ =>
    let size := (cs.takeWhile (· == c)).length
    if 3 ≤ size ∧ (c = '~' ∨ (c = '`' ∧ !(cs.drop size).contains '`')) then some (c, size)
    else none
  | [] => none

def closesFence (mark : Char) (size : Nat) (l : Line) : Bool :=
  l.indent < 4 && size ≤ (l.text.takeWhile (· == mark)).length &&
    (l.text.dropWhile (· == mark)).all fun d => d == ' ' || d == '\t'

/-! ### HTML -/

/-- Where an HTML block ends: before a blank line, or with the line that holds one of some texts. -/
inductive HtmlEnd where
  | blank
  | text (texts : List (List Char))
  deriving Repr, DecidableEq

def holds (pattern cs : List Char) : Bool := (Tag.after? pattern cs).isSome

def HtmlEnd.reachedIn (cs : List Char) : HtmlEnd → Bool
  | .blank => false
  | .text texts => texts.any fun t => holds t (Tag.lowerLetters cs)

def rawElements : List String := ["script", "pre", "style", "textarea"]

def blockElements : List String :=
  ["address", "article", "aside", "base", "basefont", "blockquote", "body", "caption", "center",
   "col", "colgroup", "dd", "details", "dialog", "dir", "div", "dl", "dt", "fieldset", "figcaption",
   "figure", "footer", "form", "frame", "frameset", "h1", "h2", "h3", "h4", "h5", "h6", "head",
   "header", "hr", "html", "iframe", "legend", "li", "link", "main", "menu", "menuitem", "nav",
   "noframes", "ol", "optgroup", "option", "p", "param", "search", "section", "summary", "table",
   "tbody", "td", "tfoot", "th", "thead", "title", "tr", "track", "ul"]

def elementName (cs : List Char) : String × List Char :=
  (String.ofList (Tag.lowerLetters (cs.takeWhile Tag.isNameChar)), cs.dropWhile Tag.isNameChar)

def endsName (closable : Bool) : List Char → Bool
  | [] => true
  | '/' :: '>' :: _ => closable
  | c :: _ => c == ' ' || c == '\t' || c == '>'

def isLoneTag (cs : List Char) : Bool :=
  match cs with
  | '/' :: rest => ((Tag.closing? rest).map isRestBlank).getD false
  | _ =>
    !rawElements.contains (elementName cs).1 && ((Tag.opening? cs).map isRestBlank).getD false

/-- The end of the HTML block that a text opens. A lone tag opens none inside a paragraph. -/
def htmlStart? (inParagraph : Bool) (cs : List Char) : Option HtmlEnd :=
  match cs with
  | '<' :: rest =>
    let (name, behind) := elementName rest
    let bare := match rest with
      | '/' :: more => more
      | more => more
    let (blockName, blockBehind) := elementName bare
    if rawElements.contains name ∧ endsName false behind then
      some (.text (rawElements.map fun n => ("</" ++ n ++ ">").toList))
    else if "!--".toList.isPrefixOf rest then some (.text ["-->".toList])
    else if "?".toList.isPrefixOf rest then some (.text ["?>".toList])
    else if "![CDATA[".toList.isPrefixOf rest then some (.text ["]]>".toList])
    else if "!".toList.isPrefixOf rest ∧ ((rest.drop 1).head?.map Tag.isLetter).getD false then
      some (.text [">".toList])
    else if blockElements.contains blockName ∧ endsName true blockBehind then some .blank
    else if !inParagraph ∧ isLoneTag rest then some .blank
    else none
  | _ => none

/-! ### List items -/

/-- The start of a list item: the mark that tells lists apart (a bullet, or the character after the
number), the number of an ordered item, the columns that its content is indented by, and the rest
of the line as its content. -/
structure Marker where
  mark : Char
  number : Option Nat
  width : Nat
  content : Line
  deriving Repr

def bullet? (cs : List Char) : Option (Char × Option Nat × Nat) :=
  match cs with
  | [] => none
  | c :: _ =>
    if c = '*' ∨ c = '+' ∨ c = '-' then some (c, none, 1)
    else
      let digits := cs.takeWhile Tag.isDigit
      match cs.drop digits.length with
      | d :: _ =>
        if 1 ≤ digits.length ∧ digits.length ≤ 9 ∧ (d = '.' ∨ d = ')') then
          some (d, some (digits.foldl (fun n c => 10 * n + (c.toNat - 48)) 0), digits.length + 1)
        else none
      | [] => none

/-- The list item that a line starts. White space of any kind alone after the marker counts as
nothing. Content indented by more than four columns after the marker keeps what exceeds one. Inside
a paragraph only an item with content starts, and of numbers only one. -/
def marker? (inParagraph : Bool) (l : Line) : Option Marker :=
  match bullet? l.text with
  | none => none
  | some (mark, number, size) =>
    let separated := match (l.text.drop size).head? with
      | none => true
      | some c => c == ' ' || c == '\t'
    let rest := l.advance size
    let rest := if rest.text.all Text.isBlank then ⟨rest.column, rest.indent, []⟩ else rest
    if !separated then none
    else if inParagraph ∧ (rest.text.isEmpty ∨ (number.isSome ∧ number ≠ some 1)) then none
    else
      let pad := if rest.text.isEmpty ∨ 5 ≤ rest.indent then 1 else rest.indent
      some ⟨mark, number, l.indent + size + pad, rest.dedent pad⟩

end Vitae.Markdown
