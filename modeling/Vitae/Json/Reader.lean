import Vitae.Json.Basic
import Vitae.Text.Hex

/-!
# Reading JSON

The reader takes the JSON grammar together with the constants `NaN`, `Infinity` and `-Infinity`.
White space is the space, the tab and the two line-end characters. A failure says what was expected
and where: inside the reader a place is the number of characters from it to the end of the text,
and `ReadError` turns it into an offset, a line and a column.

A four-digit escape can write half a surrogate pair on its own. A string keeps it, though it is no
character and no text that holds it can be encoded. The reader puts a given character in its place,
so halves are where the strings read with two such characters differ.
-/

namespace Vitae.Json

/-! ### Failures -/

inductive Flaw where
  | byteOrderMark
  | noValue
  | noName
  | noColon
  | noComma
  | extraData
  | unterminatedString
  | controlCharacter
  | unknownEscape
  | shortEscape
  deriving DecidableEq, Repr

def Flaw.message : Flaw → String
  | .byteOrderMark => "Unexpected UTF-8 BOM (decode using utf-8-sig)"
  | .noValue => "Expecting value"
  | .noName => "Expecting property name enclosed in double quotes"
  | .noColon => "Expecting ':' delimiter"
  | .noComma => "Expecting ',' delimiter"
  | .extraData => "Extra data"
  | .unterminatedString => "Unterminated string starting at"
  | .controlCharacter => "Invalid control character at"
  | .unknownEscape => "Invalid \\escape"
  | .shortEscape => "Invalid \\uXXXX escape"

/-- A failure inside the reader; a flaw is `rest` characters before the end of the text. -/
inductive Stop where
  | flaw (what : Flaw) (rest : Nat)
  | tooDeep
  | tooManyDigits
  deriving DecidableEq, Repr

inductive ReadError where
  | flaw (what : Flaw) (line column offset : Nat)
  | tooDeep
  | tooManyDigits
  deriving DecidableEq, Repr

def ReadError.message : ReadError → String
  | .flaw what line column offset =>
    s!"{what.message}: line {line} column {column} (char {offset})"
  | .tooDeep => "maximum recursion depth exceeded"
  | .tooManyDigits => "too many digits in an integer"

/-- The place `rest` characters before the end of a text: lines and columns count from one, a line
ends at a line feed. -/
def ReadError.ofStop (source : List Char) : Stop → ReadError
  | .flaw what rest =>
    let before := source.take (source.length - rest)
    .flaw what (before.count '\n' + 1) ((before.reverse.takeWhile (· != '\n')).length + 1)
      before.length
  | .tooDeep => .tooDeep
  | .tooManyDigits => .tooManyDigits

/-! ### Blanks and strings -/

def isSpace (c : Char) : Bool := c == ' ' || c == '\t' || c == '\n' || c == '\r'

def skipSpace (cs : List Char) : List Char := cs.dropWhile isSpace

def escapeChar? : Char → Option Char
  | '"' => some '"'
  | '\\' => some '\\'
  | '/' => some '/'
  | 'b' => some '\x08'
  | 'f' => some '\x0c'
  | 'n' => some '\n'
  | 'r' => some '\r'
  | 't' => some '\t'
  | _ => none

/-- What stands for half a surrogate pair where nothing else is said. -/
def standIn : Char := Char.ofNat 0xFFFD

def unitChar (half : Char) (n : Nat) : Char := if n.isValidChar then Char.ofNat n else half

/-- The characters of a string's units: a unit is a code point, or one half of a pair that two
four-digit escapes write together. `half` stands for a half on its own. -/
def joinUnits (half : Char) : List Nat → List Char
  | [] => []
  | [n] => [unitChar half n]
  | high :: low :: rest =>
    if 0xD800 ≤ high ∧ high < 0xDC00 ∧ 0xDC00 ≤ low ∧ low < 0xE000 then
      unitChar half (0x10000 + (high - 0xD800) * 0x400 + (low - 0xDC00)) :: joinUnits half rest
    else unitChar half high :: joinUnits half (low :: rest)

def consUnit (n : Nat) (r : Except Stop (List Nat × List Char)) :
    Except Stop (List Nat × List Char) :=
  r.map fun p => (n :: p.1, p.2)

/-- The units of a string after its opening quote, and the text after the closing one. `opening` is
the text from the opening quote on. A four-digit escape needs one more character behind it, as every
string needs its closing quote. -/
def readUnits (opening : List Char) : List Char → Except Stop (List Nat × List Char)
  | [] => .error (.flaw .unterminatedString opening.length)
  | c :: cs =>
    if c = '"' then .ok ([], cs)
    else if c = '\\' then
      match cs with
      | [] => .error (.flaw .unterminatedString opening.length)
      | 'u' :: a :: b :: d :: e :: f :: rest =>
        match Text.hexNumber 0 [a, b, d, e] with
        | none => .error (.flaw .shortEscape cs.length)
        | some n => consUnit n (readUnits opening (f :: rest))
      | e :: rest =>
        if e = 'u' then .error (.flaw .shortEscape cs.length)
        else
          match escapeChar? e with
          | none => .error (.flaw .unknownEscape (cs.length + 1))
          | some c => consUnit c.toNat (readUnits opening rest)
    else if c.toNat < 0x20 then .error (.flaw .controlCharacter (cs.length + 1))
    else consUnit c.toNat (readUnits opening cs)

def readString (half : Char) (opening cs : List Char) : Except Stop (List Char × List Char) :=
  (readUnits opening cs).map fun p => (joinUnits half p.1, p.2)

/-! ### Numbers -/

def isDigit (c : Char) : Bool := '0' ≤ c && c ≤ '9'

def digitsValue (cs : List Char) : Nat := cs.foldl (fun n c => 10 * n + (c.toNat - 48)) 0

def readFraction : List Char → Option (List Char × List Char)
  | '.' :: c :: cs =>
    if isDigit c then some ((c :: cs).takeWhile isDigit, (c :: cs).dropWhile isDigit) else none
  | _ => none

def readExponent : List Char → Option (Int × List Char)
  | e :: cs =>
    if e = 'e' ∨ e = 'E' then
      let (negative, digits) := match cs with
        | '-' :: ds => (true, ds)
        | '+' :: ds => (false, ds)
        | ds => (false, ds)
      let value : Nat := digitsValue (digits.takeWhile isDigit)
      if (digits.takeWhile isDigit).isEmpty then none
      else some (if negative then -(value : Int) else value, digits.dropWhile isDigit)
    else none
  | [] => none

/-- The integer part of a number: one zero, or digits that do not start with one. -/
def wholePart : List Char → List Char
  | '0' :: _ => ['0']
  | cs => cs.takeWhile isDigit

/-- A number after its sign, and the text after it: an integer part, then perhaps a fraction and an
exponent. -/
def readUnsigned (negative : Bool) (cs : List Char) : Option (Except Stop Json × List Char) :=
  let whole := wholePart cs
  let rest := cs.drop whole.length
  if whole.isEmpty then none
  else
    let fraction := readFraction rest
    let rest := (fraction.map (·.2)).getD rest
    let exponent := readExponent rest
    let rest := (exponent.map (·.2)).getD rest
    if fraction.isNone ∧ exponent.isNone then
      if digitLimit < whole.length then some (.error .tooManyDigits, rest)
      else
        let value : Nat := digitsValue whole
        some (.ok (.int (if negative then -(value : Int) else value)), rest)
    else
      let places := (fraction.map (·.1)).getD []
      let power := (exponent.map (·.1)).getD 0 - places.length
      some (.ok (.float (Binary64.ofDecimal negative (digitsValue (whole ++ places)) power)), rest)

def dropWord? (word cs : List Char) : Option (List Char) :=
  if word.isPrefixOf cs then some (cs.drop word.length) else none

def readAtom (cs : List Char) : Except Stop (Json × List Char) :=
  let words : List (String × Json) :=
    [("null", .null), ("true", .bool true), ("false", .bool false), ("NaN", .float .nan),
     ("Infinity", .float (.infinite false)), ("-Infinity", .float (.infinite true))]
  match words.findSome? fun w => (dropWord? w.1.toList cs).map fun rest => (w.2, rest) with
  | some r => .ok r
  | none =>
    let number := match cs with
      | '-' :: ds => readUnsigned true ds
      | ds => readUnsigned false ds
    match number with
    | some (value, rest) => value.map fun v => (v, rest)
    | none => .error (.flaw .noValue cs.length)

/-! ### Values -/

mutual

/-- A value at the start of a text, and the text after it. Every call but the last few takes a
character, so `fuel` of twice the length of the text is never used up; `depth` is the number of
arrays and objects that may still be opened. -/
def readValue (half : Char) (fuel depth : Nat) (cs : List Char) : Except Stop (Json × List Char) :=
  match fuel with
  | 0 => .error .tooDeep
  | fuel + 1 =>
    match cs with
    | '"' :: rest => (readString half cs rest).map fun p => (.str (String.ofList p.1), p.2)
    | '[' :: rest =>
      match depth with
      | 0 => .error .tooDeep
      | depth + 1 =>
        match skipSpace rest with
        | ']' :: after => .ok (.arr [], after)
        | body => (readItems half fuel depth body).map fun p => (.arr p.1, p.2)
    | '\x7b' :: rest =>
      match depth with
      | 0 => .error .tooDeep
      | depth + 1 =>
        match skipSpace rest with
        | '\x7d' :: after => .ok (.obj [], after)
        | body => (readMembers half fuel depth body).map fun p => (.obj (collect p.1), p.2)
    | _ => readAtom cs

def readItems (half : Char) (fuel depth : Nat) (cs : List Char) :
    Except Stop (List Json × List Char) :=
  match fuel with
  | 0 => .error .tooDeep
  | fuel + 1 =>
    match readValue half fuel depth cs with
    | .error e => .error e
    | .ok (item, rest) =>
      match skipSpace rest with
      | ']' :: after => .ok ([item], after)
      | ',' :: more => (readItems half fuel depth (skipSpace more)).map fun p => (item :: p.1, p.2)
      | other => .error (.flaw .noComma other.length)

def readMembers (half : Char) (fuel depth : Nat) (cs : List Char) :
    Except Stop (List (String × Json) × List Char) :=
  match fuel with
  | 0 => .error .tooDeep
  | fuel + 1 =>
    match cs with
    | '"' :: rest =>
      match readString half cs rest with
      | .error e => .error e
      | .ok (name, rest) =>
        match skipSpace rest with
        | ':' :: rest =>
          match readValue half fuel depth (skipSpace rest) with
          | .error e => .error e
          | .ok (value, rest) =>
            match skipSpace rest with
            | '\x7d' :: after => .ok ([(String.ofList name, value)], after)
            | ',' :: more =>
              (readMembers half fuel depth (skipSpace more)).map fun p =>
                ((String.ofList name, value) :: p.1, p.2)
            | other => .error (.flaw .noComma other.length)
        | other => .error (.flaw .noColon other.length)
    | other => .error (.flaw .noName other.length)

end

def depthLimit : Nat := 1000

def readText (half : Char) (cs : List Char) : Except Stop Json :=
  if cs.head? = some (Char.ofNat 0xFEFF) then .error (.flaw .byteOrderMark cs.length)
  else
    match readValue half (2 * cs.length + 2) depthLimit (skipSpace cs) with
    | .error e => .error e
    | .ok (value, rest) =>
      match skipSpace rest with
      | [] => .ok value
      | other => .error (.flaw .extraData other.length)

/-- The value of a text. -/
def read (source : String) (half : Char := standIn) : Except ReadError Json :=
  match readText half source.toList with
  | .ok value => .ok value
  | .error e => .error (ReadError.ofStop source.toList e)

end Vitae.Json
