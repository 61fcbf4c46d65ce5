import Vitae.Config.Yaml.Cursor
import Vitae.Config.Yaml.Scalar
import Vitae.Json.Display

/-!
# Reading simple YAML documents

YAML is read by a library; this reader is one for simple documents. A document is one node: a block
mapping or block sequence, whose entries stand in one column, a flow collection in brackets, or a
scalar. Tags, anchors, aliases, directives and keys that are collections are not read; dates and
keys that merge mappings are taken for strings.
-/

namespace Vitae.Config.Yaml

abbrev Members := List (String × Json)

def nameOf? : Json → Option String
  | .arr _ => none
  | .obj _ => none
  | key => some (String.ofList key.plain)

/-! ### Flow nodes -/

mutual

/-- A scalar or a collection in brackets. An unquoted scalar may go on in later lines from the
column `indent` on. -/
def readFlow (fuel : Nat) (inFlow : Bool) (indent : Nat) (c : Cursor) : Option (Json × Cursor) :=
  match fuel with
  | 0 => none
  | fuel + 1 =>
    match c.rest with
    | '"' :: cs =>
      (quotedScalar '"' (cs.length + 1) c.next).map fun p => (.str (String.ofList p.1), p.2)
    | '\'' :: cs =>
      (quotedScalar '\'' (cs.length + 1) c.next).map fun p => (.str (String.ofList p.1), p.2)
    | '[' :: _ => (readItems fuel c.next.toToken).map fun p => (.arr p.1, p.2)
    | '\x7b' :: _ => (readPairs fuel [] c.next.toToken).map fun p => (.obj p.1, p.2)
    | cs =>
      if startsPlain inFlow cs then
        let (text, after) := plainScalar inFlow indent (cs.length + 1) c
        some (resolve text, after)
      else none

/-- The items of a sequence up to its closing bracket; a pair on its own is a mapping of one. -/
def readItems (fuel : Nat) (c : Cursor) : Option (List Json × Cursor) :=
  match fuel with
  | 0 => none
  | fuel + 1 =>
    match c.rest with
    | ']' :: _ => some ([], c.next)
    | _ =>
      match readItem fuel c with
      | none => none
      | some (item, after) =>
        match after.toToken.rest with
        | ',' :: _ =>
          (readItems fuel after.toToken.next.toToken).map fun p => (item :: p.1, p.2)
        | ']' :: _ => some ([item], after.toToken.next)
        | _ => none

def readItem (fuel : Nat) (c : Cursor) : Option (Json × Cursor) :=
  match fuel with
  | 0 => none
  | fuel + 1 =>
    match readFlow fuel true 0 c with
    | none => none
    | some (key, after) =>
      match after.toToken.rest with
      | ':' :: _ =>
        match nameOf? key, readPairValue fuel after.toToken.next.toToken with
        | some name, some (v, place) => some (.obj [(name, v)], place)
        | _, _ => none
      | _ => some (key, after)

/-- The value of a pair after its colon; before a comma or a closing bracket it is null. -/
def readPairValue (fuel : Nat) (c : Cursor) : Option (Json × Cursor) :=
  match fuel with
  | 0 => none
  | fuel + 1 =>
    match c.rest with
    | ',' :: _ => some (.null, c)
    | ']' :: _ => some (.null, c)
    | '\x7d' :: _ => some (.null, c)
    | _ => readFlow fuel true 0 c

def readPairs (fuel : Nat) (members : Members) (c : Cursor) : Option (Members × Cursor) :=
  match fuel with
  | 0 => none
  | fuel + 1 =>
    match c.rest with
    | '\x7d' :: _ => some (members, c.next)
    | _ =>
      match readFlow fuel true 0 c with
      | none => none
      | some (key, after) =>
        let value := match after.toToken.rest with
          | ':' :: _ => readPairValue fuel after.toToken.next.toToken
          | _ => some (.null, after)
        match nameOf? key, value with
        | some name, some (v, after) =>
          let members := Json.setMember members name v
          match after.toToken.rest with
          | ',' :: _ => readPairs fuel members after.toToken.next.toToken
          | '\x7d' :: _ => some (members, after.toToken.next)
          | _ => none
        | _, _ => none

end

/-! ### Block nodes -/

def readKey? (c : Cursor) : Option (String × Cursor) :=
  let fuel := 4 * c.rest.length + 8
  let key := match c.rest with
    | '"' :: _ => readFlow fuel false 0 c
    | '\'' :: _ => readFlow fuel false 0 c
    | '[' :: _ => none
    | '\x7b' :: _ => none
    | cs =>
      if startsPlain false cs then
        let (text, after) := plainLine false (cs.length + 1) c
        some (resolve text, after)
      else none
  match key with
  | none => none
  | some (key, after) =>
    let colon := after.skipWhile (· == ' ')
    if colon.line = c.line && colon.atIndicator ':' then
      (nameOf? key).map fun name => (name, colon.next)
    else none

/-- A scalar or a flow collection that ends its line, and the place of the next token. `least` is
the least column of its later lines. -/
def readLeaf (least : Nat) (c : Cursor) : Option (Json × Cursor) :=
  let scalar := fun (folded : Bool) =>
    (blockScalar folded least c.next).map fun p => (Json.str (String.ofList p.1), p.2.toToken)
  match c.rest with
  | '|' :: _ => scalar false
  | '>' :: _ => scalar true
  | _ =>
    match readFlow (4 * c.rest.length + 8) false least c with
    | none => none
    | some (v, after) =>
      let next := after.toToken
      if next.rest.isEmpty || after.line < next.line then some (v, next) else none

mutual

/-- A block node from its first token on, and the place of the next token. A node that would not
stand right of its parent, of which `least` is the next column, is null. -/
def readBlock (fuel : Nat) (least : Nat) (c : Cursor) : Option (Json × Cursor) :=
  match fuel with
  | 0 => none
  | fuel + 1 =>
    if c.atEnd || c.column < least then some (.null, c)
    else if c.atIndicator '-' then
      (readEntries fuel false c.column c).map fun p => (.arr p.1, p.2)
    else
      match readKey? c with
      | some _ => (readMembers fuel c.column [] c).map fun p => (.obj p.1, p.2)
      | none => readLeaf least c

/-- The entries of a block sequence in a column. One that is as far left as the keys around it
ends where the next key stands. -/
def readEntries (fuel : Nat) (besideKeys : Bool) (column : Nat) (c : Cursor) :
    Option (List Json × Cursor) :=
  match fuel with
  | 0 => none
  | fuel + 1 =>
    if c.atEnd || c.column < column then some ([], c)
    else if column < c.column then none
    else if c.atIndicator '-' then
      match readBlock fuel (column + 1) c.next.toToken with
      | some (item, next) =>
        (readEntries fuel besideKeys column next).map fun p => (item :: p.1, p.2)
      | none => none
    else if besideKeys then some ([], c)
    else none

def readMembers (fuel : Nat) (column : Nat) (members : Members) (c : Cursor) :
    Option (Members × Cursor) :=
  match fuel with
  | 0 => none
  | fuel + 1 =>
    if c.atEnd || c.column < column then some (members, c)
    else if column < c.column then none
    else
      match readKey? c with
      | none => none
      | some (name, after) =>
        let next := after.toToken
        let value :=
          if next.line = after.line && !next.rest.isEmpty then readLeaf (column + 1) next
          else if next.column = column && !next.atEnd && next.atIndicator '-' then
            (readEntries fuel true column next).map fun p => (.arr p.1, p.2)
          else readBlock fuel (column + 1) next
        match value with
        | some (v, next) => readMembers fuel column (Json.setMember members name v) next
        | none => none

end

/-! ### Documents -/

def isAllowed (c : Char) : Bool :=
  let n := c.toNat
  n == 0x9 || n == 0xA || n == 0xD || (0x20 ≤ n && n ≤ 0x7E) || n == 0x85 ||
    (0xA0 ≤ n && n ≤ 0xFFFD) || 0x10000 ≤ n

/-- A byte order mark at the start of a text is no part of it. -/
def dropMark : List Char → List Char
  | [] => []
  | c :: cs => if c.toNat = 0xFEFF then cs else c :: cs

/-- The root of a document from its first token on. After the marker of its start, only a scalar
or a flow collection may stand on the same line. -/
def readRoot (c : Cursor) : Option (Json × Cursor) :=
  let fuel := 4 * c.rest.length + 8
  if c.atMarker ['-', '-', '-'] then
    let next := (c.skip 3).toToken
    if next.line = c.line && !next.rest.isEmpty then readLeaf 0 next
    else readBlock fuel 0 next
  else readBlock fuel 0 c

/-- Is nothing more to come after the root? The marker of the end may stand there. -/
def isFinished (c : Cursor) : Bool :=
  c.rest.isEmpty || (c.atMarker ['.', '.', '.'] && (c.skip 3).toToken.rest.isEmpty)

def read (source : String) : Option Json :=
  let cs := dropMark source.toList
  if cs.all isAllowed then
    match readRoot (Cursor.ofText cs).toToken with
    | some (v, next) => if isFinished next then some v else none
    | none => none
  else none

end Vitae.Config.Yaml
