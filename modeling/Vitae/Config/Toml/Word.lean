import Vitae.Json.Reader
import Vitae.Text.Hex

/-!
# TOML words

Keys, strings and numbers of a TOML document. Each scanner takes its part from the start of a text
and gives its value and the text after it; it fails where the part is malformed.
-/

namespace Vitae.Config.Toml

/-! ### Blanks -/

def isBlank (c : Char) : Bool := c == ' ' || c == '\t'

def isSpace (c : Char) : Bool := isBlank c || c == '\n'

def skipBlanks (cs : List Char) : List Char := cs.dropWhile isBlank

def isControl (c : Char) : Bool := c.toNat < 0x20 || c.toNat == 0x7F

/-- The text after a comment, if one starts here; it holds no control character but the tab. -/
def skipComment : List Char → Option (List Char)
  | '#' :: cs =>
    if (cs.takeWhile (· != '\n')).any fun c => isControl c && c != '\t' then none
    else some (cs.dropWhile (· != '\n'))
  | cs => some cs

def skipGap : Nat → List Char → Option (List Char)
  | 0, cs => some cs
  | fuel + 1, cs =>
    match cs.dropWhile isSpace with
    | '#' :: rest => (skipComment ('#' :: rest)).bind (skipGap fuel)
    | rest => some rest

/-! ### Strings -/

def cons (c : Char) (r : Option (List Char × List Char)) : Option (List Char × List Char) :=
  r.map fun p => (c :: p.1, p.2)

def escapeChar? : Char → Option Char
  | 'b' => some '\x08'
  | 't' => some '\t'
  | 'n' => some '\n'
  | 'f' => some '\x0c'
  | 'r' => some '\r'
  | '"' => some '"'
  | '\\' => some '\\'
  | _ => none

def readEscape : List Char → Option (Char × List Char)
  | [] => none
  | c :: cs =>
    let digits := if c = 'u' then 4 else if c = 'U' then 8 else 0
    if digits = 0 then (escapeChar? c).map fun e => (e, cs)
    else if cs.length < digits then none
    else
      match Text.hexNumber 0 (cs.take digits) with
      | some n => if n.isValidChar then some (Char.ofNat n, cs.drop digits) else none
      | none => none

def readBasic : Nat → List Char → Option (List Char × List Char)
  | 0, _ => none
  | _ + 1, [] => none
  | fuel + 1, c :: cs =>
    if c = '"' then some ([], cs)
    else if c = '\\' then
      match readEscape cs with
      | some (e, rest) => cons e (readBasic fuel rest)
      | none => none
    else if isControl c && c != '\t' then none
    else cons c (readBasic fuel cs)

def readLiteral : List Char → Option (List Char × List Char)
  | [] => none
  | c :: cs =>
    if c = '\'' then some ([], cs)
    else if isControl c && c != '\t' then none
    else cons c (readLiteral cs)

/-- Up to two quotes before the three that close a string belong to it. -/
def closeLines (quote : Char) (cs : List Char) : List Char × List Char :=
  let extra := min 2 (cs.takeWhile (· == quote)).length
  (List.replicate extra quote, cs.drop extra)

/-- The text after the end of a line at which a backslash stands, and after all white space there. -/
def skipLineEnd (cs : List Char) : Option (List Char) :=
  match skipBlanks cs with
  | '\n' :: rest => some (rest.dropWhile isSpace)
  | [] => some []
  | _ => none

def readBasicLines : Nat → List Char → Option (List Char × List Char)
  | 0, _ => none
  | _ + 1, [] => none
  | _ + 1, '"' :: '"' :: '"' :: cs => some (closeLines '"' cs)
  | fuel + 1, c :: cs =>
    if c = '\\' then
      if (cs.head?.map isSpace).getD false then (skipLineEnd cs).bind (readBasicLines fuel)
      else
        match readEscape cs with
        | some (e, rest) => cons e (readBasicLines fuel rest)
        | none => none
    else if isControl c && !isSpace c then none
    else cons c (readBasicLines fuel cs)

def readLiteralLines : List Char → Option (List Char × List Char)
  | [] => none
  | '\'' :: '\'' :: '\'' :: cs => some (closeLines '\'' cs)
  | c :: cs => if isControl c && !isSpace c then none else cons c (readLiteralLines cs)

/-- A line end directly after the opening of a string of several lines is no part of it. -/
def dropFirstBreak : List Char → List Char
  | '\n' :: cs => cs
  | cs => cs

def readString (cs : List Char) : Option (List Char × List Char) :=
  match cs with
  | '"' :: '"' :: '"' :: rest => readBasicLines (rest.length + 1) (dropFirstBreak rest)
  | '"' :: rest => readBasic (rest.length + 1) rest
  | '\'' :: '\'' :: '\'' :: rest => readLiteralLines (dropFirstBreak rest)
  | '\'' :: rest => readLiteral rest
  | _ => none

/-! ### Keys -/

def isKeyChar (c : Char) : Bool := c.isAlphanum || c == '-' || c == '_'

def readKeyPart (cs : List Char) : Option (String × List Char) :=
  match cs with
  | '"' :: rest => (readBasic (rest.length + 1) rest).map fun p => (String.ofList p.1, p.2)
  | '\'' :: rest => (readLiteral rest).map fun p => (String.ofList p.1, p.2)
  | _ =>
    let bare := cs.takeWhile isKeyChar
    if bare.isEmpty then none else some (String.ofList bare, cs.dropWhile isKeyChar)

/-- A key: parts with dots between them, and the text after it from its first character that is no
white space of the line. -/
def readKey : Nat → List Char → Option (List String × List Char)
  | 0, _ => none
  | fuel + 1, cs =>
    match readKeyPart cs with
    | none => none
    | some (part, rest) =>
      match skipBlanks rest with
      | '.' :: more => (readKey fuel (skipBlanks more)).map fun p => (part :: p.1, p.2)
      | rest => some ([part], rest)

/-! ### Numbers -/

/-- Digits of a kind between which single low lines may stand, and the text after them. -/
def takeDigits (isDigit : Char → Bool) : List Char → List Char × List Char
  | '_' :: c :: cs =>
    if isDigit c then
      let p := takeDigits isDigit cs
      (c :: p.1, p.2)
    else ([], '_' :: c :: cs)
  | c :: cs =>
    if isDigit c then
      let p := takeDigits isDigit cs
      (c :: p.1, p.2)
    else ([], c :: cs)
  | [] => ([], [])

def readDigits (isDigit : Char → Bool) (cs : List Char) : Option (List Char × List Char) :=
  match cs with
  | c :: _ => if isDigit c then some (takeDigits isDigit cs) else none
  | [] => none

def isDigitOf (base : Nat) (c : Char) : Bool :=
  match Text.hexValue? c with
  | some n => decide (n < base)
  | none => false

def digitsOf (base : Nat) (cs : List Char) : Nat :=
  cs.foldl (fun n c => base * n + (Text.hexValue? c).getD 0) 0

def baseOf? : Char → Option Nat
  | 'x' => some 16
  | 'o' => some 8
  | 'b' => some 2
  | _ => none

def readBased : List Char → Option (Json × List Char)
  | '0' :: letter :: cs => do
    let base ← baseOf? letter
    let (digits, rest) ← readDigits (isDigitOf base) cs
    some (.int (digitsOf base digits), rest)
  | _ => none

def takeSign : List Char → Bool × List Char
  | '-' :: cs => (true, cs)
  | '+' :: cs => (false, cs)
  | cs => (false, cs)

def takeFraction (cs : List Char) : List Char × List Char :=
  match cs with
  | '.' :: rest => (readDigits Json.isDigit rest).getD ([], cs)
  | _ => ([], cs)

def takeExponent (cs : List Char) : Option Int × List Char :=
  match cs with
  | e :: rest =>
    if e = 'e' ∨ e = 'E' then
      let (negative, rest) := takeSign rest
      match readDigits Json.isDigit rest with
      | some (digits, rest) =>
        let value : Nat := Json.digitsValue digits
        (some (if negative then -(value : Int) else value), rest)
      | none => (none, cs)
    else (none, cs)
  | [] => (none, cs)

/-- A decimal number: an integer, or a floating-point number if a fraction or an exponent
follows. -/
def readDecimal (cs : List Char) : Option (Json × List Char) :=
  let (negative, unsigned) := takeSign cs
  let whole := match unsigned with
    | '0' :: rest => some (['0'], rest)
    | _ => readDigits Json.isDigit unsigned
  match whole with
  | none => none
  | some (whole, rest) =>
    let (places, rest) := takeFraction rest
    let (exponent, rest) := takeExponent rest
    if places.isEmpty && exponent.isNone then
      let value : Nat := Json.digitsValue whole
      if Json.digitLimit < whole.length then none
      else some (.int (if negative then -(value : Int) else value), rest)
    else
      let power := exponent.getD 0 - places.length
      some (.float (Binary64.ofDecimal negative (Json.digitsValue (whole ++ places)) power), rest)

def readSpecial (cs : List Char) : Option (Json × List Char) :=
  let (negative, rest) := takeSign cs
  match rest with
  | 'i' :: 'n' :: 'f' :: rest => some (.float (.infinite negative), rest)
  | 'n' :: 'a' :: 'n' :: rest => some (.float .nan, rest)
  | _ => none

def readNumber (cs : List Char) : Option (Json × List Char) :=
  (readBased cs).or ((readDecimal cs).or (readSpecial cs))

example : readKey 9 ['a', ' ', '.', ' ', 'b', ' ', '='] = some (["a", "b"], ['=']) := by
  decide +kernel
example : (takeDigits Json.isDigit ['1', '_', '2', '_', '_']) = (['1', '2'], ['_', '_']) := by
  decide +kernel

end Vitae.Config.Toml
