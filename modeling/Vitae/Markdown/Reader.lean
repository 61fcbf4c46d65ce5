import Vitae.Markdown.Block
import Vitae.Markdown.Inline
import Vitae.Markdown.Token

/-!
# Reading Markdown

A source is split into blocks, the paragraphs among them into inline content; both together are the
token forest that a document is made of.
-/

namespace Vitae.Markdown

mutual

def inlineToken : Inline → Token
  | .text source => .text (String.ofList source)
  | .softBreak => .softBreak
  | .gap => .dropped "gap" "" []
  | .span .strong body => .styled .strong (inlineTokens body)
  | .span .emphasis body => .styled .emphasis (inlineTokens body)
  | .span (.link url) body => .styled (.link (.str (String.ofList url))) (inlineTokens body)

def inlineTokens : List Inline → List Token
  | [] => []
  | x :: rest => inlineToken x :: inlineTokens rest

end

mutual

def blockToken (definitions : List Definition) : Block → Token
  | .paragraph source => .group .paragraph (inlineTokens (readInlines definitions source))
  | .list start items => .group (.list (start.map Int.ofNat)) (itemTokens definitions items)
  | .other => .dropped "block" "" []

def itemTokens (definitions : List Definition) : List (List Block) → List Token
  | [] => []
  | item :: rest => .group .item (blockTokens definitions item) :: itemTokens definitions rest

def blockTokens (definitions : List Definition) : List Block → List Token
  | [] => []
  | b :: rest => blockToken definitions b :: blockTokens definitions rest

end

def tokens (source : String) : List Token :=
  let (blocks, definitions) := readBlocks source.toList
  blockTokens definitions blocks

def read (links : LinkAttributes) (source : String) : Node := document links (tokens source)

end Vitae.Markdown
