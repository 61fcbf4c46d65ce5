import Vitae.Markdown.Token

/-!
# Tokens as records

A tokenizer gives its tokens as records: the name of a type, and what tokens of that type carry.
Types that the document model has no node for are dropped.
-/

namespace Vitae.Markdown

/-- A token under the name of its type. Attributes that are not given are null. -/
structure Record where
  kind : String
  raw : Option String
  attrs : Json
  children : List Record
  deriving Inhabited

namespace Record

/-- The first number of a list, if it is ordered. It is one unless a whole number is given; a truth
value counts as a number. -/
def start? (attrs : Json) : Option Int :=
  if (attrs.field "ordered").truthy then
    match attrs.field "start" with
    | .int n => some n
    | .bool b => some (if b then 1 else 0)
    | _ => some 1
  else none

mutual

def token : Record → Token
  | ⟨kind, raw, attrs, children⟩ =>
    match kind with
    | "text" => .text (raw.getD "")
    | "softbreak" => .softBreak
    | "paragraph" => .group .paragraph (tokens children)
    | "block_text" => .group .paragraph (tokens children)
    | "strong" => .styled .strong (tokens children)
    | "emphasis" => .styled .emphasis (tokens children)
    | "link" => .styled (.link (attrs.field "url")) (tokens children)
    | "list" => .group (.list (start? attrs)) (tokens children)
    | "list_item" => .group .item (tokens children)
    | kind => .dropped kind (raw.getD "") (tokens children)

def tokens : List Record → List Token
  | [] => []
  | record :: rest => token record :: tokens rest

end

end Record

end Vitae.Markdown
