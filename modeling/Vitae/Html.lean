import Vitae.Document
import Vitae.Failure
import Vitae.Json.Display

/-!
# HTML

A document as an HTML fragment. Text and attribute values are escaped; marks wrap the text of their
leaf, the first one innermost. A link without a destination gets the default one. Its target is left
out where the surrounding document underlines links.
-/

namespace Vitae.Html

/-! ### Escaping -/

def escapeChar : Char → List Char
  | '&' => "&amp;".toList
  | '<' => "&lt;".toList
  | '>' => "&gt;".toList
  | '"' => "&quot;".toList
  | '\'' => "&#x27;".toList
  | c => [c]

def escape (cs : List Char) : List Char := cs.flatMap escapeChar

theorem escape_append (a b : List Char) : escape (a ++ b) = escape a ++ escape b :=
  List.flatMap_append

/-! ### Rendering -/

/-- How a document is rendered. `defaultHref` is the destination of a link that has none. -/
structure Style where
  escapes : Bool
  defaultHref : Json
  deriving Repr

def Style.text (style : Style) (cs : List Char) : List Char :=
  if style.escapes then escape cs else cs

/-- An attribute's value as the style writes it. Only strings can be escaped; without escaping any
value is shown. -/
def Style.value (style : Style) : Json → Except Failure (List Char)
  | .str s => .ok (style.text s.toList)
  | value => if style.escapes then .error .noSuchMember else .ok value.plain

def attr (style : Style) (name : String) (value : Json) : Except Failure (List Char) :=
  (style.value value).map fun text => ' ' :: (name.toList ++ ('=' :: '"' :: (text ++ ['"'])))

/-- An attribute that is left out when its value counts as false. -/
def attr? (style : Style) (name : String) (value : Json) : Except Failure (List Char) :=
  if value.truthy then attr style name value else .ok []

def element (tag : String) (body : List Char) : List Char :=
  '<' :: (tag.toList ++ ('>' :: (body ++ ('<' :: '/' :: (tag.toList ++ ['>'])))))

def anchor (style : Style) (underline : Bool) (href target className : Json) (body : List Char) :
    Except Failure (List Char) := do
  let href ← attr style "href" (if href.truthy then href else style.defaultHref)
  let target ← if underline then .ok [] else attr? style "target" target
  let className ← attr? style "class" className
  .ok ("<a".toList ++ (href ++ (target ++ (className ++ ('>' :: (body ++ "</a>".toList))))))

def applyMark (style : Style) (underline : Bool) (body : List Char) : Mark →
    Except Failure (List Char)
  | .bold => .ok (element "strong" body)
  | .italic => .ok (element "em" body)
  | .underline => .ok (element "u" body)
  | .link href target className => anchor style underline href target className body

/-- A text with marks, the first one innermost. -/
def applyMarks (style : Style) (underline : Bool) (body : List Char) : List Mark →
    Except Failure (List Char)
  | [] => .ok body
  | mark :: rest =>
    match applyMark style underline body mark with
    | .error e => .error e
    | .ok body => applyMarks style underline body rest

def enclose : Container Int → List Char → List Char
  | .doc, body => body
  | .paragraph, body => element "p" body
  | .bulletList, body => element "ul" body
  | .orderedList _, body => element "ol" body
  | .listItem, body => element "li" body

mutual

def render (style : Style) (underline : Bool) : Node → Except Failure (List Char)
  | .text content marks => applyMarks style underline (style.text content.toList) marks
  | .branch container children => (renderAll style underline children).map (enclose container)

def renderAll (style : Style) (underline : Bool) : List Node → Except Failure (List Char)
  | [] => .ok []
  | child :: rest =>
    match render style underline child with
    | .error e => .error e
    | .ok text => (renderAll style underline rest).map (text ++ ·)

end

end Vitae.Html
