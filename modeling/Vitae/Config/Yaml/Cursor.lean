import Vitae.Text.Hex

/-!
# Places in a YAML document

The rest of a document with the line and the column at which it starts, and the scanners that move
on from there: over gaps between tokens, and over scalars. A scalar of several lines is folded: one
line end becomes a space, and of several in a row all but the first remain.
-/

namespace Vitae.Config.Yaml

structure Cursor where
  line : Nat
  column : Nat
  rest : List Char
  deriving Repr, Inhabited

namespace Cursor

def ofText (cs : List Char) : Cursor := ⟨0, 0, cs⟩

def next (c : Cursor) : Cursor :=
  match c.rest with
  | [] => c
  | '\n' :: cs => ⟨c.line + 1, 0, cs⟩
  | _ :: cs => ⟨c.line, c.column + 1, cs⟩

def skip : Nat → Cursor → Cursor
  | 0, c => c
  | n + 1, c => skip n c.next

def skipWhile (p : Char → Bool) (c : Cursor) : Cursor := c.skip (c.rest.takeWhile p).length

def skipGap : Nat → Cursor → Cursor
  | 0, c => c
  | fuel + 1, c =>
    let c := c.skipWhile fun x => x == ' ' || x == '\n'
    match c.rest with
    | '#' :: _ => skipGap fuel (c.skipWhile (· != '\n'))
    | _ => c

def toToken (c : Cursor) : Cursor := c.skipGap (c.rest.length + 1)

def blankAhead : List Char → Bool
  | [] => true
  | c :: _ => c == ' ' || c == '\t' || c == '\n'

def atMarker (marker : List Char) (c : Cursor) : Bool :=
  c.column == 0 && marker.isPrefixOf c.rest && blankAhead (c.rest.drop 3)

/-- Is the document over here: at its end, or at a marker? -/
def atEnd (c : Cursor) : Bool :=
  c.rest.isEmpty || c.atMarker ['-', '-', '-'] || c.atMarker ['.', '.', '.']

def atIndicator (x : Char) (c : Cursor) : Bool :=
  match c.rest with
  | y :: cs => x == y && blankAhead cs
  | [] => false

end Cursor

/-! ### Folding -/

/-- What stands for line ends in a folded scalar: `breaks` of them in a row. -/
def foldBreaks (breaks : Nat) : List Char :=
  if breaks = 1 then [' '] else List.replicate (breaks - 1) '\n'

/-- The line ends and the blanks around them between two lines of a scalar, the place being the end
of the first line: their number and the place of the second line. A document marker stops them. -/
def skipBreaks (isBlank : Char → Bool) : Nat → Cursor → Nat × Cursor
  | 0, c => (0, c)
  | fuel + 1, c =>
    let c := c.skipWhile isBlank
    match c.rest with
    | '\n' :: _ =>
      let after := c.next
      if after.atEnd then (1, after)
      else
        let p := skipBreaks isBlank fuel after
        (p.1 + 1, p.2)
    | _ => (0, c)

def isSpace (c : Char) : Bool := c == ' '

def isSpaceOrTab (c : Char) : Bool := c == ' ' || c == '\t'

/-! ### Unquoted scalars -/

def startsPlain (inFlow : Bool) : List Char → Bool
  | [] => false
  | c :: cs =>
    !(" \t\n-?:,[]\x7b\x7d#&*!|>'\"%@`".toList.contains c) ||
      (!Cursor.blankAhead cs && (c == '-' || (!inFlow && (c == '?' || c == ':'))))

/-- The word at the start of an unquoted scalar: up to a blank, to a colon before a blank and, in a
flow collection, to an indicator. -/
def plainWord (inFlow : Bool) : List Char → List Char
  | [] => []
  | c :: cs =>
    if c = ' ' ∨ c = '\t' ∨ c = '\n' then []
    else if c = ':' ∧ (Cursor.blankAhead cs ∨
        (inFlow ∧ (cs.head?.map ",[]\x7b\x7d".toList.contains).getD false)) then []
    else if inFlow ∧ ",?[]\x7b\x7d".toList.contains c then []
    else c :: plainWord inFlow cs

def plainLine (inFlow : Bool) : Nat → Cursor → List Char × Cursor
  | 0, c => ([], c)
  | fuel + 1, c =>
    let word := plainWord inFlow c.rest
    let after := c.skip word.length
    let blanks := after.rest.takeWhile (· == ' ')
    let next := after.skip blanks.length
    let goesOn := match next.rest with
      | x :: _ => x != '#' && !(plainWord inFlow next.rest).isEmpty
      | [] => false
    if blanks.isEmpty || !goesOn then (word, after)
    else
      let p := plainLine inFlow fuel next
      (word ++ blanks ++ p.1, p.2)

/-- An unquoted scalar: its lines after the first stand at the column `indent` or further right
unless they are in a flow collection. -/
def plainScalar (inFlow : Bool) (indent : Nat) : Nat → Cursor → List Char × Cursor
  | 0, c => ([], c)
  | fuel + 1, c =>
    let (text, after) := plainLine inFlow (c.rest.length + 1) c
    let (breaks, next) := skipBreaks isSpace (after.rest.length + 1) after
    let goesOn := breaks != 0 && !next.atEnd && next.rest.head? != some '#' &&
      (inFlow || decide (indent ≤ next.column)) && !(plainWord inFlow next.rest).isEmpty
    if goesOn then
      let p := plainScalar inFlow indent fuel next
      (text ++ foldBreaks breaks ++ p.1, p.2)
    else (text, after)

/-! ### Quoted scalars -/

def escapeChar? : Char → Option Char
  | '0' => some '\x00'
  | 'a' => some '\x07'
  | 'b' => some '\x08'
  | 't' => some '\t'
  | '\t' => some '\t'
  | 'n' => some '\n'
  | 'v' => some '\x0b'
  | 'f' => some '\x0c'
  | 'r' => some '\r'
  | 'e' => some '\x1b'
  | ' ' => some ' '
  | '"' => some '"'
  | '\\' => some '\\'
  | '/' => some '/'
  | 'N' => some (Char.ofNat 0x85)
  | '_' => some (Char.ofNat 0xA0)
  | 'L' => some (Char.ofNat 0x2028)
  | 'P' => some (Char.ofNat 0x2029)
  | _ => none

def escapeDigits : Char → Nat
  | 'x' => 2
  | 'u' => 4
  | 'U' => 8
  | _ => 0

def readEscape (c : Cursor) : Option (Char × Cursor) :=
  match c.rest with
  | [] => none
  | x :: cs =>
    let digits := escapeDigits x
    if digits = 0 then (escapeChar? x).map fun e => (e, c.next)
    else if cs.length < digits then none
    else
      (Text.hexNumber 0 (cs.take digits)).bind fun n =>
        if n.isValidChar then some (Char.ofNat n, c.skip (digits + 1)) else none

def addFront (cs : List Char) (r : Option (List Char × Cursor)) : Option (List Char × Cursor) :=
  r.map fun p => (cs ++ p.1, p.2)

/-- A scalar in quotes, from after the opening one. Blanks before a line end are dropped, and with
them those after it. -/
def quotedScalar (quote : Char) : Nat → Cursor → Option (List Char × Cursor)
  | 0, _ => none
  | fuel + 1, c =>
    match c.rest with
    | [] => none
    | x :: cs =>
      if x = quote then
        if quote = '\'' ∧ cs.head? = some '\'' then
          addFront ['\''] (quotedScalar quote fuel (c.skip 2))
        else some ([], c.next)
      else if x = '\\' ∧ quote = '"' then
        if cs.head? = some '\n' then
          let (breaks, next) := skipBreaks isSpaceOrTab (cs.length + 1) c.next
          if next.atEnd && next.column == 0 then none
          else addFront (List.replicate (breaks - 1) '\n') (quotedScalar quote fuel next)
        else
          match readEscape c.next with
          | some (e, next) => addFront [e] (quotedScalar quote fuel next)
          | none => none
      else if x = ' ' ∨ x = '\t' ∨ x = '\n' then
        let blanks := c.rest.takeWhile isSpaceOrTab
        let after := c.skip blanks.length
        let (breaks, next) := skipBreaks isSpaceOrTab (after.rest.length + 1) after
        if breaks = 0 then addFront blanks (quotedScalar quote fuel after)
        else if next.atEnd && next.column == 0 then none
        else addFront (foldBreaks breaks) (quotedScalar quote fuel next)
      else addFront [x] (quotedScalar quote fuel c.next)

/-! ### Block scalars -/

inductive Chomping where
  | strip
  | clip
  | keep
  deriving DecidableEq, Repr

/-- The header of a block scalar after its first character: what becomes of its last line ends, and
how much further than its parent it is indented if that is said. -/
def blockHeader (cs : List Char) : Option (Chomping × Option Nat × List Char) :=
  let chomping := fun (c : Char) => if c = '+' then Chomping.keep else .strip
  let isSign := fun (c : Char) => c == '+' || c == '-'
  let isStep := fun (c : Char) => '1' ≤ c && c ≤ '9'
  let step := fun (c : Char) => c.toNat - 48
  let (kind, width, rest) := match cs with
    | a :: b :: rest =>
      if isSign a && isStep b then (chomping a, some (step b), rest)
      else if isStep a && isSign b then (chomping b, some (step a), rest)
      else if isSign a then (chomping a, none, b :: rest)
      else if isStep a then (.clip, some (step a), b :: rest)
      else (.clip, none, cs)
    | [a] =>
      if isSign a then (chomping a, none, [])
      else if isStep a then (.clip, some (step a), [])
      else (.clip, none, cs)
    | [] => (.clip, none, [])
  let ending := rest.takeWhile (· != '\n')
  let trimmed := ending.dropWhile (· == ' ')
  if trimmed.isEmpty || (trimmed.head? = some '#' && trimmed.length < ending.length) then
    some (kind, width, rest.drop ending.length)
  else none

/-- The empty lines before a line of a block scalar, of which up to `indent` spaces are skipped. -/
def blockBreaks (indent : Nat) : Nat → Cursor → Nat × Cursor
  | 0, c => (0, c)
  | fuel + 1, c =>
    let c := c.skip (min (indent - c.column) (c.rest.takeWhile (· == ' ')).length)
    match c.rest with
    | '\n' :: _ =>
      let p := blockBreaks indent fuel c.next
      (p.1 + 1, p.2)
    | _ => (0, c)

/-- The lines of a block scalar from a place in the column `indent`: their text, whether a line end
follows the last, the number of empty lines after it, and the place after those. -/
def blockLines (folded : Bool) (indent : Nat) : Nat → Cursor → List Char × Bool × Nat × Cursor
  | 0, c => ([], false, 0, c)
  | fuel + 1, c =>
    let line := c.rest.takeWhile (· != '\n')
    let after := c.skip line.length
    if after.rest.isEmpty then (line, false, 0, after)
    else
      let (breaks, next) := blockBreaks indent (after.rest.length + 1) after.next
      if next.column = indent && !next.rest.isEmpty then
        let isIndented := fun (cs : List Char) => (cs.head?.map isSpaceOrTab).getD false
        let between :=
          if folded && !isIndented c.rest && !isIndented next.rest then
            if breaks = 0 then [' '] else []
          else ['\n']
        let (text, ended, last, place) := blockLines folded indent fuel next
        (line ++ between ++ List.replicate breaks '\n' ++ text, ended, last, place)
      else (line, true, breaks, next)

/-- The column of a block scalar that does not say how far it is indented: that of its first line
that is not empty, or the largest of the empty lines before it. -/
def blockColumn : Nat → Cursor → Nat
  | 0, c => c.column
  | fuel + 1, c =>
    let c := c.skipWhile (· == ' ')
    match c.rest with
    | '\n' :: _ => max c.column (blockColumn fuel c.next)
    | _ => c.column

/-- A block scalar after its first character; `least` is the least column at which it may stand. -/
def blockScalar (folded : Bool) (least : Nat) (c : Cursor) : Option (List Char × Cursor) :=
  match blockHeader c.rest with
  | none => none
  | some (chomping, width, rest) =>
    let start := (c.skip (c.rest.length - rest.length)).next
    let least := max least 1
    let fuel := start.rest.length + 1
    let indent := match width with
      | some width => least + width - 1
      | none => max least (blockColumn fuel start)
    let (breaks, first) := blockBreaks indent fuel start
    let empty : List Char × Bool × Nat × Cursor := ([], false, breaks, first)
    let (text, ended, last, place) :=
      if first.column = indent && !first.rest.isEmpty then
        let p := blockLines folded indent fuel first
        (List.replicate breaks '\n' ++ p.1, p.2)
      else empty
    let ending := if chomping ≠ .strip && ended then ['\n'] else []
    let kept := if chomping = .keep then List.replicate last '\n' else []
    some (text ++ ending ++ kept, place)

end Vitae.Config.Yaml
