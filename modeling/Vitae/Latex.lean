import Vitae.Document
import Vitae.Failure
import Vitae.Json.Display
import Vitae.Text.Blank
import Vitae.Text.Lines

/-!
# LaTeX

A document as a LaTeX fragment. Characters with a meaning are escaped in one pass, in text and, by
rules of their own, in the destinations of links. A paragraph ends with a blank line; a list item
gives up the first one inside it, so that a plain item stands on one line. `argument` makes a
fragment fit for the argument of a command, where blank lines are not allowed.
-/

namespace Vitae.Latex

/-! ### Escaping -/

def escapeChar : Char → List Char
  | '\\' => "\\textbackslash\x7b\x7d".toList
  | '~' => "\\textasciitilde\x7b\x7d".toList
  | '^' => "\\textasciicircum\x7b\x7d".toList
  | c =>
    if c = '\x7b' ∨ c = '\x7d' ∨ c = '$' ∨ c = '%' ∨ c = '&' ∨ c = '#' ∨ c = '_' then ['\\', c]
    else [c]

def escape (cs : List Char) : List Char := cs.flatMap escapeChar

def escapeUrlChar (c : Char) : List Char :=
  if c = '\\' ∨ c = '#' ∨ c = '%' ∨ c = '\x7b' ∨ c = '\x7d' then ['\\', c] else [c]

def escapeUrl (cs : List Char) : List Char := cs.flatMap escapeUrlChar

/-! ### Rendering -/

structure Style where
  escapesText : Bool
  escapesUrls : Bool
  deriving Repr, DecidableEq

def Style.text (style : Style) (cs : List Char) : List Char :=
  if style.escapesText then escape cs else cs

/-- The destination of a link as the style writes it. One that counts as false is empty; only
strings can be escaped. -/
def Style.url (style : Style) (href : Json) : Except Failure (List Char) :=
  if href.truthy then
    match href with
    | .str s => .ok (if style.escapesUrls then escapeUrl s.toList else s.toList)
    | value => if style.escapesUrls then .error .wrongType else .ok value.plain
  else .ok []

def command (name : String) (body : List Char) : List Char :=
  '\\' :: (name.toList ++ ('\x7b' :: (body ++ ['\x7d'])))

def applyMark (style : Style) (underline : Bool) (body : List Char) : Mark →
    Except Failure (List Char)
  | .bold => .ok (command "textbf" body)
  | .italic => .ok (command "textit" body)
  | .underline => .ok (command "underline" body)
  | .link href _ _ => do
    let url ← style.url href
    let body := if underline then command "underline" body else body
    .ok (command "href" url ++ ('\x7b' :: (body ++ ['\x7d'])))

/-- A text with marks, the first one innermost. -/
def applyMarks (style : Style) (underline : Bool) (body : List Char) : List Mark →
    Except Failure (List Char)
  | [] => .ok body
  | mark :: rest =>
    match applyMark style underline body mark with
    | .error e => .error e
    | .ok body => applyMarks style underline body rest

/-- A text in which the first blank line is closed up: of the first two adjacent line feeds one
goes. -/
def closeUp : List Char → List Char
  | '\n' :: '\n' :: cs => '\n' :: cs
  | c :: cs => c :: closeUp cs
  | [] => []

def environment (name : String) (body : List Char) : List Char :=
  command "begin" name.toList ++ ('\n' :: (body ++ (command "end" name.toList ++ ['\n'])))

def enclose : Container Int → Bool → List Char → List Char
  | .doc, _, body => body
  | .paragraph, childless, body => if childless then ['\n'] else body ++ ['\n', '\n']
  | .bulletList, _, body => environment "itemize" body
  | .orderedList _, _, body => environment "enumerate" body
  | .listItem, _, body => "\\item ".toList ++ closeUp body

mutual

def render (style : Style) (underline : Bool) : Node → Except Failure (List Char)
  | .text content marks => applyMarks style underline (style.text content.toList) marks
  | .branch container children =>
    (renderAll style underline children).map (enclose container children.isEmpty)

def renderAll (style : Style) (underline : Bool) : List Node → Except Failure (List Char)
  | [] => .ok []
  | child :: rest =>
    match render style underline child with
    | .error e => .error e
    | .ok text => (renderAll style underline rest).map (text ++ ·)

end

/-! ### Command arguments -/

def isBlankLine (line : List Char) : Bool := line.all fun c => c == ' ' || c == '\t'

/-- Blank lines that a line feed ends become comments. -/
def commentBlanks : List (List Char) → List (List Char)
  | [] => []
  | [last] => [last]
  | line :: rest => (if isBlankLine line then ['%'] else line) :: commentBlanks rest

/-- A fragment for the argument of a command: stripped, with a lone `%` on every blank line. -/
def argument (cs : List Char) : List Char :=
  Text.unlines (commentBlanks (Text.lines (Text.strip cs)))

example : argument "a\n\nb\n\n".toList = "a\n%\nb".toList := by decide
example : argument "\n".toList = [] := by decide

end Vitae.Latex
