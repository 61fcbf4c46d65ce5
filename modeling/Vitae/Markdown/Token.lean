import Vitae.CharRef
import Vitae.Document

/-!
# Tokens and their documents

A Markdown source is a forest of tokens. `transform` makes a document of it: spans hand the marks
they stand for down to the text inside them, so that every leaf carries the marks of all spans
around it, the outermost first. Neighbouring texts and line breaks make one leaf; every other token
ends it. What the document model has no node for is dropped.
-/

namespace Vitae.Markdown

inductive Style where
  | strong
  | emphasis
  | link (url : Json)
  deriving Repr

/-- A token that becomes a node with what is inside it as its children. A list with a start number
is ordered. -/
inductive Group where
  | paragraph
  | list (start : Option Int)
  | item
  deriving Repr, DecidableEq

/-- A token. `dropped` is one that the document model has no node for. -/
inductive Token where
  | text (raw : String)
  | softBreak
  | styled (style : Style) (children : List Token)
  | group (group : Group) (children : List Token)
  | dropped (kind raw : String) (children : List Token)
  deriving Repr, Inhabited

structure LinkAttributes where
  target : Json
  className : Json
  deriving Repr

def Style.mark (links : LinkAttributes) : Style → Mark
  | .strong => .bold
  | .emphasis => .italic
  | .link url => .link url links.target links.className

def Group.container : Group → Container Int
  | .paragraph => .paragraph
  | .list none => .bulletList
  | .list (some start) => .orderedList start
  | .item => .listItem

/-- The leaf of a run of text; there is none for an empty run. -/
def leaf (marks : List Mark) (run : List Char) : List Node :=
  match run with
  | [] => []
  | cs => [.text (String.ofList cs) marks]

theorem leaf_cons (marks : List Mark) (c : Char) (cs : List Char) :
    leaf marks (c :: cs) = [.text (String.ofList (c :: cs)) marks] := rfl

mutual

def transformRun (links : LinkAttributes) (marks : List Mark) (run : List Char) :
    List Token → List Node
  | [] => leaf marks run
  | .text raw :: rest => transformRun links marks (run ++ CharRef.decode raw.toList) rest
  | .softBreak :: rest => transformRun links marks (run ++ ['\n']) rest
  | token :: rest =>
    leaf marks run ++ (transformToken links marks token ++ transformRun links marks [] rest)

def transformToken (links : LinkAttributes) (marks : List Mark) : Token → List Node
  | .styled style children => transformRun links (marks ++ [style.mark links]) [] children
  | .group group children => [.branch group.container (transformRun links marks [] children)]
  | _ => []

end

def Token.joinsRun : Token → Bool
  | .text _ => true
  | .softBreak => true
  | _ => false

def Token.runText : Token → List Char
  | .text raw => CharRef.decode raw.toList
  | .softBreak => ['\n']
  | _ => []

theorem transformRun_join (links : LinkAttributes) (marks : List Mark) (run : List Char)
    {token : Token} (rest : List Token) (h : token.joinsRun = true) :
    transformRun links marks run (token :: rest) =
      transformRun links marks (run ++ token.runText) rest := by
  cases token with
  | text raw => rfl
  | softBreak => rfl
  | styled style children => exact Bool.noConfusion h
  | group group children => exact Bool.noConfusion h
  | dropped kind raw children => exact Bool.noConfusion h

theorem transformRun_flush (links : LinkAttributes) (marks : List Mark) (run : List Char)
    {token : Token} (rest : List Token) (h : token.joinsRun = false) :
    transformRun links marks run (token :: rest) =
      leaf marks run ++ (transformToken links marks token ++ transformRun links marks [] rest) := by
  cases token with
  | text raw => exact Bool.noConfusion h
  | softBreak => exact Bool.noConfusion h
  | styled style children => rfl
  | group group children => rfl
  | dropped kind raw children => rfl

def transform (links : LinkAttributes) (marks : List Mark) (tokens : List Token) : List Node :=
  transformRun links marks [] tokens

def document (links : LinkAttributes) (tokens : List Token) : Node :=
  Node.doc (transform links [] tokens)

end Vitae.Markdown
