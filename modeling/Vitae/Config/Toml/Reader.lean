import Vitae.Config.Toml.Moment
import Vitae.Config.Toml.Table
import Vitae.Config.Toml.Word

/-!
# Reading TOML

A document is a sequence of statements, one a line: a key with its value, or a header that names
the table into which the keys after it go.
-/

namespace Vitae.Config.Toml

/-! ### Values -/

mutual

/-- A value at the start of a text, and the text after it. `fuel` of twice the length of the text
is never used up. -/
def readValue (fuel : Nat) (cs : List Char) : Option (Json × List Char) :=
  match fuel with
  | 0 => none
  | fuel + 1 =>
    match cs with
    | '"' :: _ => (readString cs).map fun p => (.str (String.ofList p.1), p.2)
    | '\'' :: _ => (readString cs).map fun p => (.str (String.ofList p.1), p.2)
    | 't' :: 'r' :: 'u' :: 'e' :: rest => some (.bool true, rest)
    | 'f' :: 'a' :: 'l' :: 's' :: 'e' :: rest => some (.bool false, rest)
    | '[' :: rest =>
      match skipGap rest.length rest with
      | some (']' :: after) => some (.arr [], after)
      | some body => (readItems fuel body).map fun p => (.arr p.1, p.2)
      | none => none
    | '\x7b' :: rest =>
      match skipBlanks rest with
      | '\x7d' :: after => some (.obj [], after)
      | body => (readInline fuel [] body).map fun p => (.obj (membersOf p.1), p.2)
    | _ =>
      match readMoment cs with
      | some moment => moment.map fun p => (p.1.value, p.2)
      | none => readNumber cs

/-- The items of an array from the first one to the closing bracket; a comma may end them. -/
def readItems (fuel : Nat) (cs : List Char) : Option (List Json × List Char) :=
  match fuel with
  | 0 => none
  | fuel + 1 =>
    match readValue fuel cs with
    | none => none
    | some (item, rest) =>
      match skipGap rest.length rest with
      | some (']' :: after) => some ([item], after)
      | some (',' :: more) =>
        match skipGap more.length more with
        | some (']' :: after) => some ([item], after)
        | some body => (readItems fuel body).map fun p => (item :: p.1, p.2)
        | none => none
      | _ => none

def readInline (fuel : Nat) (table : Table) (cs : List Char) : Option (Table × List Char) :=
  match fuel with
  | 0 => none
  | fuel + 1 =>
    match readKey (cs.length + 1) cs with
    | some (key, '=' :: rest) =>
      match readValue fuel (skipBlanks rest) with
      | none => none
      | some (v, rest) =>
        match table.atLast (fun name => Table.assign name v) key with
        | none => none
        | some table =>
          match skipBlanks rest with
          | '\x7d' :: after => some (table, after)
          | ',' :: more => readInline fuel table (skipBlanks more)
          | _ => none
    | _ => none

end

/-! ### Statements -/

/-- A document while it is read: the number of the current section, the keys of its header, and
the table of the whole. -/
structure Draft where
  number : Nat := 0
  header : List String := []
  table : Table := []

def readEntry (draft : Draft) (cs : List Char) : Option (Draft × List Char) :=
  match readKey (cs.length + 1) cs with
  | some (key, '=' :: rest) => do
    let body := skipBlanks rest
    let (v, rest) ← readValue (2 * body.length + 2) body
    let table ← draft.table.within (Table.assignDotted draft.number v key) draft.header
    some ({ draft with table }, rest)
  | _ => none

def readHeader (draft : Draft) (cs : List Char) : Option (Draft × List Char) := do
  let (key, rest) ← readKey (cs.length + 1) (skipBlanks cs)
  let table ← draft.table.atLast (Table.openTable draft.number) key
  let rest ← Json.dropWord? [']'] rest
  some (⟨draft.number + 1, key, table⟩, rest)

def readArrayHeader (draft : Draft) (cs : List Char) : Option (Draft × List Char) := do
  let (key, rest) ← readKey (cs.length + 1) (skipBlanks cs)
  let table ← draft.table.atLast Table.addTable key
  let rest ← Json.dropWord? [']', ']'] rest
  some (⟨draft.number + 1, key, table⟩, rest)

def readStatement (draft : Draft) (cs : List Char) : Option (Draft × List Char) :=
  match cs with
  | [] => some (draft, cs)
  | '\n' :: _ => some (draft, cs)
  | '#' :: _ => some (draft, cs)
  | '[' :: '[' :: rest => readArrayHeader draft rest
  | '[' :: rest => readHeader draft rest
  | _ => readEntry draft cs

def readStatements : Nat → Draft → List Char → Option Draft
  | 0, _, _ => none
  | fuel + 1, draft, cs => do
    let (draft, rest) ← readStatement draft (skipBlanks cs)
    match ← skipComment (skipBlanks rest) with
    | [] => some draft
    | '\n' :: rest => readStatements fuel draft rest
    | _ => none

def joinBreaks : List Char → List Char
  | [] => []
  | '\r' :: '\n' :: cs => '\n' :: joinBreaks cs
  | c :: cs => c :: joinBreaks cs

/-- The members of the table that a document describes; none if it is malformed. -/
def read (source : String) : Option (List (String × Json)) :=
  let cs := joinBreaks source.toList
  (readStatements (cs.length + 1) {} cs).map fun draft => membersOf draft.table

end Vitae.Config.Toml
