import Vitae.Markdown.Reference
import Vitae.Markdown.Tag
import Vitae.Text.Alphanumeric
import Vitae.Text.Blank

/-!
# Inline content

The text of a paragraph: literal text, line breaks, emphasis, links, and everything else (code, raw
HTML, images, forced breaks) as gaps in the text.

A content is read from left to right into pieces. Open brackets are kept on a stack with the pieces
before them; a closing bracket that makes a link turns the pieces since its partner into the link's
content. Runs of `*` and `_` are pieces of their own until the content is complete and `resolve`
pairs them.
-/

namespace Vitae.Markdown

inductive Span where
  | strong
  | emphasis
  | link (url : List Char)
  deriving Repr, DecidableEq

/-- Inline content. The source of a text still holds its character references. -/
inductive Inline where
  | text (source : List Char)
  | softBreak
  | gap
  | span (span : Span) (body : List Inline)
  deriving Repr, Inhabited

/-! ### Pieces -/

/-- A run of `*` or `_`: how many are left, how many there were, and what it can do. -/
structure Run where
  mark : Char
  count : Nat
  size : Nat
  canOpen : Bool
  canClose : Bool
  deriving Repr, DecidableEq

/-- A piece of content. Text is kept backwards while it grows; `escaped` text comes from a run of
backslash escapes. A link's body is complete; for it and for a gap it is known how many spans stand
inside each other there. -/
inductive Piece where
  | text (backwards : List Char)
  | escaped (source : List Char)
  | softBreak
  | gap (depth : Nat)
  | run (run : Run)
  | address (url label : List Char)
  | link (url : List Char) (depth : Nat) (body : List Inline)
  | emphasis (strong : Bool) (body : List Piece)
  deriving Repr, Inhabited

namespace Piece

mutual

def depth : Piece → Nat
  | .gap depth => depth
  | .address .. => 1
  | .link _ depth _ => depth
  | .emphasis _ body => depthAll body + 1
  | _ => 0

def depthAll : List Piece → Nat
  | [] => 0
  | p :: rest => max (depth p) (depthAll rest)

end

def depthLimit : Nat := 20

/-- A run that pairs with nothing is text. -/
def literal : Piece → Piece
  | .run r => .text (List.replicate r.count r.mark)
  | p => p

/-- An address inside a link is text, with its brackets. -/
def unlink : Piece → Piece
  | .address _ label => .text ('>' :: (label.reverse ++ ['<']))
  | p => p

def isRun : Piece → Bool
  | .run _ => true
  | _ => false

/-- Puts a character of text behind pieces, which are listed from the last to the first. -/
def addChar (c : Char) : List Piece → List Piece
  | .text cs :: rest => .text (c :: cs) :: rest
  | pieces => .text [c] :: pieces

def addChars (cs : List Char) (pieces : List Piece) : List Piece :=
  cs.foldl (fun pieces c => addChar c pieces) pieces

/-! ### Emphasis -/

/-- Can the runs be the ends of one emphasis? Where one of them could also be the other end, the
sum of their sizes is no multiple of three, unless both sizes are. -/
def pairs (opener closer : Run) : Bool :=
  opener.canOpen && opener.mark == closer.mark &&
    !((opener.canClose || closer.canOpen) && (opener.size + closer.size) % 3 == 0 &&
      !(opener.size % 3 == 0 && closer.size % 3 == 0))

/-- The nearest run before a closing one that pairs with it, among pieces listed from the last to
the first: the pieces between, the run and the pieces before it. -/
def findOpener (closer : Run) (between : List Piece) : List Piece →
    Option (List Piece × Run × List Piece)
  | [] => none
  | .run r :: rest =>
    if pairs r closer then some (between, r, rest)
    else findOpener closer (.run r :: between) rest
  | p :: rest => findOpener closer (p :: between) rest

def shrink (r : Run) (used : Nat) (rest : List Piece) : List Piece :=
  if r.count ≤ used then rest else .run { r with count := r.count - used } :: rest

/-- Pairs the runs of a content: `before` are the pieces already looked at, from the last to the
first. A pair around content that is nested to the limit is refused, and its closing run closes
nothing. Every step uses up a mark or a piece, so `fuel` of their number is not used up. -/
def resolveFrom (fuel : Nat) (before pieces : List Piece) : List Piece :=
  match fuel, pieces with
  | 0, _ => (before.reverse ++ pieces).map literal
  | _, [] => before.reverse.map literal
  | fuel + 1, .run r :: rest =>
    let found := if r.canClose then findOpener r [] before else none
    let keep := if r.canOpen then .run r else literal (.run r)
    match found with
    | none => resolveFrom fuel (keep :: before) rest
    | some (between, opener, outer) =>
      if depthLimit ≤ depthAll between then resolveFrom fuel (keep :: before) rest
      else
        let used := if 2 ≤ opener.count ∧ 2 ≤ r.count then 2 else 1
        let pair := emphasis (used == 2) (between.map literal)
        resolveFrom fuel (pair :: shrink opener used outer) (shrink r used rest)
  | fuel + 1, p :: rest => resolveFrom fuel (p :: before) rest

def weight : List Piece → Nat
  | [] => 1
  | .run r :: rest => r.count + 1 + weight rest
  | _ :: rest => 1 + weight rest

def resolve (pieces : List Piece) : List Piece := resolveFrom (weight pieces) [] pieces

/-! ### Joining text -/

/-- Does a text start like the rest of a character reference: with a name or number and a
semicolon? -/
def startsReference (cs : List Char) : Bool :=
  let isAlnum := fun c => Tag.isLetter c || Tag.isDigit c
  let closed := fun (p : Char → Bool) (cs : List Char) =>
    !(cs.takeWhile p).isEmpty && (cs.dropWhile p).head? == some ';'
  match cs with
  | '#' :: 'x' :: ds => closed (fun c => (Text.hexValue? c).isSome) ds
  | '#' :: 'X' :: ds => closed (fun c => (Text.hexValue? c).isSome) ds
  | '#' :: ds => closed Tag.isDigit ds
  | c :: _ => Tag.isLetter c && closed isAlnum cs
  | [] => false

def joins (a b : List Char) : Bool := !(a.getLast? == some '&' && startsReference b)

/-- Neighbouring texts, of which escaped ones are marked. Literal texts are joined; where the
content has runs, so are escaped ones. -/
def joinTexts (all : Bool) : List (Bool × Inline) → List Inline
  | [] => []
  | [(_, x)] => [x]
  | (e, .text a) :: (f, .text b) :: rest =>
    if (all ∨ (e = false ∧ f = false)) ∧ joins a b then
      joinTexts all ((false, .text (a ++ b)) :: rest)
    else .text a :: joinTexts all ((f, .text b) :: rest)
  | (_, x) :: y :: rest => x :: joinTexts all (y :: rest)
termination_by xs => xs.length

mutual

def toInline (all : Bool) : Piece → List (Bool × Inline)
  | .text [] => []
  | .text cs => [(false, .text cs.reverse)]
  | .escaped cs => [(true, .text cs)]
  | .softBreak => [(false, .softBreak)]
  | .gap _ => [(false, .gap)]
  | .run r => [(false, .text (List.replicate r.count r.mark))]
  | .address url label => [(false, .span (.link url) [.text label])]
  | .link url _ body => [(false, .span (.link url) body)]
  | .emphasis strong body =>
    [(false, .span (if strong then .strong else .emphasis) (joinTexts all (toInlines all body)))]

def toInlines (all : Bool) : List Piece → List (Bool × Inline)
  | [] => []
  | p :: rest => toInline all p ++ toInlines all rest

end

def complete (pieces : List Piece) : List Inline :=
  let all := pieces.any isRun
  joinTexts all (toInlines all (resolve pieces))

end Piece

/-! ### Reading -/

/-- An open bracket: what is read before it, from the last to the first, the source after it, and
whether links were being read there. `active` is false once a link has been made after it. -/
structure Bracket where
  image : Bool
  active : Bool
  inAnchor : Bool
  before : List Piece
  source : List Char
  deriving Repr

/-- What has been read of a content: the pieces since the innermost open bracket, from the last to
the first, the open brackets and the last character. Between a raw `<a>` tag and its end no links
are read. -/
structure Reading where
  pieces : List Piece := []
  brackets : List Bracket := []
  inAnchor : Bool := false
  last : Option Char := none
  deriving Repr

namespace Reading

def addText (r : Reading) (cs : List Char) : Reading :=
  { r with pieces := Piece.addChars cs r.pieces, last := cs.getLast?.or r.last }

def addPiece (r : Reading) (p : Piece) (last : Char) : Reading :=
  { r with pieces := p :: r.pieces, last := some last }

/-! #### Escapes, code and breaks -/

def escapes : List Char → List Char × List Char
  | [] => ([], [])
  | [c] => ([], [c])
  | c :: d :: cs =>
    if c = '\\' ∧ isPunctuation d then
      let (ds, rest) := escapes cs
      (d :: ds, rest)
    else ([], c :: d :: cs)

/-- The text after a run of exactly `size` backticks; at most `fuel` runs are looked at. -/
def afterTicks? (size : Nat) : Nat → List Char → Option (List Char)
  | 0, _ => none
  | fuel + 1, cs =>
    match cs.dropWhile (· != '`') with
    | [] => none
    | ticks =>
      let rest := ticks.dropWhile (· == '`')
      if ticks.length - rest.length = size then some rest else afterTicks? size fuel rest

def trimSpaces : List Piece → List Piece × Nat
  | .text cs :: rest =>
    let kept := cs.dropWhile (· == ' ')
    (if kept.isEmpty then rest else .text kept :: rest, cs.length - kept.length)
  | pieces => (pieces, 0)

/-- Adds a line break. Two spaces before it make it a forced one. -/
def addBreak (r : Reading) : Reading :=
  let (pieces, spaces) := trimSpaces r.pieces
  { r with pieces := (if 2 ≤ spaces then .gap 0 else .softBreak) :: pieces, last := some '\n' }

/-! #### Runs -/

def isOpenSide (c : Option Char) : Bool := (c.map Text.isBlank).getD true

def isSign (c : Option Char) : Bool :=
  (c.map fun c => !Text.isBlank c && !Text.isAlphanumeric c).getD false

/-- A run with what it can do between two characters. A run of `_` does nothing inside a word. -/
def runBetween (mark : Char) (size : Nat) (before after : Option Char) : Run :=
  let left := !isOpenSide after && (!isSign after || isOpenSide before || isSign before)
  let right := !isOpenSide before && (!isSign before || isOpenSide after || isSign after)
  if mark = '_' then
    ⟨mark, size, size, left && (!right || isSign before), right && (!left || isSign after)⟩
  else ⟨mark, size, size, left, right⟩

/-! #### Addresses and HTML -/

def isMailChar (c : Char) : Bool :=
  Tag.isLetter c || Tag.isDigit c || ".!#$%&'*+/=?^_`\x7b|\x7d~-".toList.contains c

/-- A label of a domain: letters, digits and inner hyphens, at most 63 of them. -/
def isDomainLabel (cs : List Char) : Bool :=
  let isAlnum := fun c => Tag.isLetter c || Tag.isDigit c
  !cs.isEmpty && cs.length ≤ 63 && cs.all (fun c => isAlnum c || c == '-') &&
    (cs.head?.map isAlnum).getD false && (cs.getLast?.map isAlnum).getD false

def domainLabels : List Char → List (List Char)
  | [] => [[]]
  | '.' :: cs => [] :: domainLabels cs
  | c :: cs =>
    match domainLabels cs with
    | label :: rest => (c :: label) :: rest
    | [] => [[c]]

def isMail (cs : List Char) : Bool :=
  let user := cs.takeWhile isMailChar
  match cs.drop user.length with
  | '@' :: domain => !user.isEmpty && (domainLabels domain).all isDomainLabel
  | _ => false

/-- Is the text an absolute address: a scheme of two to 32 characters, a colon, and no blanks? -/
def isUri (cs : List Char) : Bool :=
  let scheme := cs.takeWhile fun c =>
    Tag.isLetter c || Tag.isDigit c || c == '+' || c == '.' || c == '-'
  (scheme.head?.map Tag.isLetter).getD false && 2 ≤ scheme.length && scheme.length ≤ 32 &&
    match cs.drop scheme.length with
    | ':' :: rest => rest.all fun c => 0x20 < c.toNat && c != '<' && c != '>'
    | _ => false

/-- An address between angle brackets after the first one: its destination, its text and what is
behind. -/
def address? (cs : List Char) : Option (List Char × List Char × List Char) :=
  let inner := cs.takeWhile fun c => c != '>' && c != '<'
  match cs.drop inner.length with
  | '>' :: rest =>
    if isUri inner then some (resolveUrl inner, inner, rest)
    else if isMail inner then some (resolveUrl ("mailto:".toList ++ inner), inner, rest)
    else none
  | _ => none

/-- Is links' reading off after a tag? It goes off with `<a>` and on again with `</a>`. -/
def anchorAfter (inAnchor : Bool) (tag : List Char) : Bool :=
  let starts := fun (s : String) => s.toList.isPrefixOf tag
  if starts "a " || starts "a>" || starts "A " || starts "A>" then true
  else if starts "/a " || starts "/a>" || starts "/A " || starts "/A>" then false
  else inAnchor

def readAngle (r : Reading) (cs : List Char) : Reading × List Char :=
  match address? cs with
  | some (url, label, rest) =>
    if r.inAnchor then (r.addText ('<' :: (label ++ ['>'])), rest)
    else (r.addPiece (.address url label) '>', rest)
  | none =>
    match Tag.html? cs with
    | some rest => ({ r.addPiece (.gap 0) '>' with inAnchor := anchorAfter r.inAnchor cs }, rest)
    | none => (r.addText ['<'], cs)

/-! #### Brackets -/

def openBracket (r : Reading) (image : Bool) (rest : List Char) : Reading :=
  { r with
    pieces := []
    brackets := ⟨image, true, r.inAnchor, r.pieces, rest⟩ :: r.brackets
    last := some '[' }

def flatten (b : Bracket) (pieces : List Piece) : List Piece :=
  pieces ++ Piece.addChars (if b.image then ['!', '['] else ['[']) b.before

/-- The destination of the link that a bracket makes, with the text after it: given behind the
bracket, or by a label there, or by the bracket's content as a label. `label` is that content. -/
def target? (definitions : List Definition) (label rest : List Char) :
    Option (List Char × List Char) :=
  let inline? := match rest with
    | '(' :: cs => inlineTarget? cs
    | _ => none
  match inline? with
  | some (url, rest) => some (resolveUrl url, rest)
  | none =>
    match label? rest with
    | some ([], rest) => (Definition.find? definitions label).map fun url => (url, rest)
    | some (other, rest) => (Definition.find? definitions other).map fun url => (url, rest)
    | none => (Definition.find? definitions label).map fun url => (url, rest)

def closeBracket (definitions : List Definition) (r : Reading) (cs : List Char) :
    Reading × List Char :=
  let rest := cs.drop 1
  match r.brackets with
  | [] => (r.addText [']'], rest)
  | b :: outer =>
    let failed := { r with pieces := flatten b r.pieces, brackets := outer }.addText [']']
    if !b.active then (failed, rest)
    else
      match target? definitions (b.source.take (b.source.length - cs.length)) rest with
      | none => (failed, rest)
      | some (url, rest) =>
        let body := r.pieces.reverse.map Piece.unlink
        let resolved := Piece.resolve body
        let depth := Piece.depthAll resolved
        if Piece.depthLimit ≤ depth then (failed, cs.drop 1)
        else if b.image then
          ({ r with
              pieces := .gap (depth + 1) :: b.before
              brackets := outer
              inAnchor := b.inAnchor
              last := some ')' }, rest)
        else
          ({ r with
              pieces := .link url (depth + 1) (Piece.complete body) :: b.before
              brackets := outer.map fun o => if o.image then o else { o with active := false }
              inAnchor := b.inAnchor
              last := some ')' }, rest)

/-! #### The content -/

def step (definitions : List Definition) (r : Reading) (c : Char) (cs : List Char) :
    Reading × List Char :=
  match c with
  | '\\' =>
    match escapes (c :: cs) with
    | ([], _) =>
      match cs with
      | '\n' :: rest =>
        ({ r.addPiece (.gap 0) '\n' with last := some '\n' }, rest.dropWhile Text.isBlank)
      | _ => (r.addText [c], cs)
    | (chars, rest) => (r.addPiece (.escaped chars) (chars.getLast?.getD c), rest)
  | '`' =>
    let size := (cs.takeWhile (· == '`')).length + 1
    match afterTicks? size cs.length (cs.drop (size - 1)) with
    | some rest => (r.addPiece (.gap 0) '`', rest)
    | none => (r.addText (List.replicate size '`'), cs.drop (size - 1))
  | '\n' => (r.addBreak, cs.dropWhile Text.isBlank)
  | '<' => r.readAngle cs
  | '[' => if r.inAnchor then (r.addText [c], cs) else (r.openBracket false cs, cs)
  | ']' => r.closeBracket definitions (c :: cs)
  | '!' =>
    match cs with
    | '[' :: rest => (r.openBracket true rest, rest)
    | _ => (r.addText [c], cs)
  | _ =>
    if c = '*' ∨ c = '_' then
      let size := (cs.takeWhile (· == c)).length + 1
      let rest := cs.drop (size - 1)
      (r.addPiece (.run (runBetween c size r.last rest.head?)) c, rest)
    else (r.addText [c], cs)

/-- Reads a content. Every step takes a character, so `fuel` of their number is not used up. -/
def run (definitions : List Definition) : Nat → Reading → List Char → Reading
  | 0, r, _ => r
  | _, r, [] => r
  | fuel + 1, r, c :: cs =>
    let (r, rest) := step definitions r c cs
    run definitions fuel r rest

def allPieces (r : Reading) : List Piece :=
  (r.brackets.foldl (fun pieces b => flatten b pieces) r.pieces).reverse

end Reading

def isEdge (c : Char) : Bool := c == ' ' || c == '\r' || c == '\n' || c == '\t' || c == '\x0c'

def readInlines (definitions : List Definition) (source : List Char) : List Inline :=
  let cs := Text.stripOf isEdge source
  Piece.complete (Reading.run definitions cs.length {} cs).allPieces

end Vitae.Markdown
