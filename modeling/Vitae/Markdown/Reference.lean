import Vitae.CharRef
import Vitae.Text.Blank
import Vitae.Text.Case
import Vitae.Text.Percent

/-!
# Link destinations and definitions

The parts of a link beside its text: the destination, the title, which is read and dropped, and the
label that refers to a definition elsewhere in the source. Two labels agree when their words agree
regardless of case; of two definitions of one label the first counts.
-/

namespace Vitae.Markdown

/-! ### Escapes -/

def isPunctuation (c : Char) : Bool :=
  (33 ≤ c.toNat && c.toNat ≤ 47) || (58 ≤ c.toNat && c.toNat ≤ 64) ||
    (91 ≤ c.toNat && c.toNat ≤ 96) || (123 ≤ c.toNat && c.toNat ≤ 126)

def unescape : List Char → List Char
  | [] => []
  | [c] => [c]
  | c :: d :: cs =>
    if c = '\\' ∧ isPunctuation d then d :: unescape cs else c :: unescape (d :: cs)

/-- The destination that a source text stands for, escapes apart: references that end with a
semicolon are decoded, foreign characters encoded. -/
def resolveUrl (cs : List Char) : List Char := Text.percentEncode (CharRef.decodeClosed cs)

/-! ### White space -/

def isGap (c : Char) : Bool := c == ' ' || c == '\t'

/-- The text after spaces, tabs and at most one line end. -/
def skipGap (cs : List Char) : List Char :=
  match cs.dropWhile isGap with
  | '\n' :: rest => rest.dropWhile isGap
  | rest => rest

/-! ### Destinations and titles -/

def parenthesisLimit : Nat := 20

def angled? : List Char → Option (List Char × List Char)
  | [] => none
  | '>' :: cs => some ([], cs)
  | '\\' :: c :: cs => (angled? cs).map fun p => ('\\' :: c :: p.1, p.2)
  | c :: cs =>
    if c = '<' ∨ c = '\n' then none else (angled? cs).map fun p => (c :: p.1, p.2)

def endsBare (c : Char) : Bool := c.toNat ≤ 0x20 || c.toNat == 0x7F

def bare? (depth : Nat) : List Char → Option (List Char × List Char)
  | [] => if depth = 0 then some ([], []) else none
  | [c] =>
    if endsBare c ∨ (c = ')' ∧ depth = 0) then if depth = 0 then some ([], [c]) else none
    else if c = '(' then none
    else if c = ')' then if depth = 1 then some ([c], []) else none
    else if depth = 0 then some ([c], []) else none
  | c :: d :: cs =>
    if c = '\\' ∧ isPunctuation d then (bare? depth cs).map fun p => (c :: d :: p.1, p.2)
    else if endsBare c then if depth = 0 then some ([], c :: d :: cs) else none
    else if c = '(' then
      if parenthesisLimit ≤ depth then none
      else (bare? (depth + 1) (d :: cs)).map fun p => (c :: p.1, p.2)
    else if c = ')' then
      if depth = 0 then some ([], c :: d :: cs)
      else (bare? (depth - 1) (d :: cs)).map fun p => (c :: p.1, p.2)
    else (bare? depth (d :: cs)).map fun p => (c :: p.1, p.2)

/-- A destination and the text behind it. Without angle brackets it is not empty. -/
def destination? : List Char → Option (List Char × List Char)
  | '<' :: cs => angled? cs
  | cs =>
    match bare? 0 cs with
    | some ([], _) => none
    | other => other

/-- The text after a title that ends with `close`; between parentheses no other may open. -/
def titleEnd? (close : Char) : List Char → Option (List Char)
  | [] => none
  | [c] => if c = close then some [] else none
  | c :: d :: cs =>
    if c = close then some (d :: cs)
    else if c = '\\' then titleEnd? close cs
    else if c = '(' ∧ close = ')' then none
    else titleEnd? close (d :: cs)

def title? : List Char → Option (List Char)
  | '"' :: cs => titleEnd? '"' cs
  | '\'' :: cs => titleEnd? '\'' cs
  | '(' :: cs => titleEnd? ')' cs
  | _ => none

/-- The destination and title of a link after its opening parenthesis: the destination and the
text after the closing one. White space has to stand before a title. -/
def inlineTarget? (cs : List Char) : Option (List Char × List Char) := do
  let start := skipGap cs
  let (url, rest) ← match start with
    | ')' :: _ => some ([], start)
    | _ => destination? start
  let behind := skipGap rest
  let behind :=
    if behind.length < rest.length then
      match title? behind with
      | some rest => skipGap rest
      | none => behind
    else behind
  match behind with
  | ')' :: rest => some (unescape url, rest)
  | _ => none

/-! ### Labels -/

def labelLimit : Nat := 999

/-- A label after its opening bracket, of at most `room` characters: what it holds and the text
after the closing bracket. -/
def labelFrom? : Nat → List Char → Option (List Char × List Char)
  | _, [] => none
  | _, ']' :: cs => some ([], cs)
  | room + 2, '\\' :: c :: cs => (labelFrom? room cs).map fun p => ('\\' :: c :: p.1, p.2)
  | room + 1, c :: cs =>
    if c = '[' then none else (labelFrom? room cs).map fun p => (c :: p.1, p.2)
  | 0, _ => none

def label? : List Char → Option (List Char × List Char)
  | '[' :: cs => labelFrom? labelLimit cs
  | _ => none

/-- The form under which labels are compared. -/
def labelKey (cs : List Char) : List Char :=
  Text.caseless ([' '].intercalate (Text.words cs))

/-! ### Definitions -/

structure Definition where
  key : List Char
  url : List Char
  deriving Repr, DecidableEq

def Definition.find? (definitions : List Definition) (label : List Char) : Option (List Char) :=
  let key := labelKey label
  if key.isEmpty then none else (definitions.find? (·.key == key)).map (·.url)

/-- The text of the next line, if there is nothing left on this one. -/
def lineEnd? (cs : List Char) : Option (List Char) :=
  match cs.dropWhile isGap with
  | [] => some []
  | '\n' :: rest => some rest
  | _ => none

/-- A definition at the start of a paragraph, and the lines after it. A title that does not end its
line is none, and then the destination has to end the line before. -/
def definition? (cs : List Char) : Option (Definition × List Char) := do
  let (label, rest) ← label? cs
  let key := labelKey label
  if key.isEmpty then none
  else
    match rest with
    | ':' :: rest =>
      let (url, rest) ← destination? (skipGap rest)
      let behind := skipGap rest
      let titled :=
        if behind.length < rest.length then (title? behind).bind lineEnd? else none
      let after ← match titled with
        | some after => some after
        | none => lineEnd? rest
      some (⟨key, resolveUrl (unescape url)⟩, after)
    | _ => none

def takeDefinitions : Nat → List Char → List Definition × List Char
  | 0, cs => ([], cs)
  | fuel + 1, cs =>
    match definition? cs with
    | some (d, rest) =>
      let (ds, rest) := takeDefinitions fuel rest
      (d :: ds, rest)
    | none => ([], cs)

def splitDefinitions (cs : List Char) : List Definition × List Char :=
  takeDefinitions cs.length cs

end Vitae.Markdown
