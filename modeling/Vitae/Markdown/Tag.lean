/-!
# Raw HTML

Recognising HTML in a source without interpreting it: tags, comments, processing instructions,
declarations and literal sections. Each recogniser gives the text after what it recognises.
-/

namespace Vitae.Markdown.Tag

def isLetter (c : Char) : Bool := ('a' ≤ c && c ≤ 'z') || ('A' ≤ c && c ≤ 'Z')

def isDigit (c : Char) : Bool := '0' ≤ c && c ≤ '9'

def isSpace (c : Char) : Bool :=
  c == ' ' || c == '\t' || c == '\n' || c == '\r' || c == '\x0b' || c == '\x0c'

def isNameChar (c : Char) : Bool := isLetter c || isDigit c || c == '-'

def isAttributeStart (c : Char) : Bool := isLetter c || c == '_' || c == ':'

def isAttributeChar (c : Char) : Bool :=
  isLetter c || isDigit c || c == '_' || c == ':' || c == '.' || c == '-'

def isBareChar (c : Char) : Bool :=
  !(isSpace c || c == '"' || c == '\'' || c == '=' || c == '<' || c == '>' || c == '`')

def after? (pattern : List Char) : List Char → Option (List Char)
  | [] => if pattern.isEmpty then some [] else none
  | c :: cs =>
    if pattern.isPrefixOf (c :: cs) then some ((c :: cs).drop pattern.length) else after? pattern cs

def name? : List Char → Option (List Char)
  | c :: cs => if isLetter c then some (cs.dropWhile isNameChar) else none
  | [] => none

def value? : List Char → Option (List Char)
  | '"' :: cs => after? ['"'] cs
  | '\'' :: cs => after? ['\''] cs
  | c :: cs => if isBareChar c then some (cs.dropWhile isBareChar) else none
  | [] => none

/-- The text after an attribute and the white space that has to stand before it. -/
def attribute? (cs : List Char) : Option (List Char) :=
  match cs with
  | [] => none
  | c :: rest =>
    if !isSpace c then none
    else
      match rest.dropWhile isSpace with
      | [] => none
      | a :: more =>
        if !isAttributeStart a then none
        else
          let named := more.dropWhile isAttributeChar
          match named.dropWhile isSpace with
          | '=' :: text =>
            match value? (text.dropWhile isSpace) with
            | some rest => some rest
            | none => some named
          | _ => some named

/-- The text after all attributes; at most `fuel` of them are read. -/
def attributes : Nat → List Char → List Char
  | 0, cs => cs
  | fuel + 1, cs =>
    match attribute? cs with
    | some rest => attributes fuel rest
    | none => cs

def opening? (cs : List Char) : Option (List Char) := do
  let rest ← name? cs
  match (attributes cs.length rest).dropWhile isSpace with
  | '>' :: rest => some rest
  | '/' :: '>' :: rest => some rest
  | _ => none

def closing? (cs : List Char) : Option (List Char) := do
  let rest ← name? cs
  match rest.dropWhile isSpace with
  | '>' :: rest => some rest
  | _ => none

def comment? : List Char → Option (List Char)
  | '>' :: cs => some cs
  | '-' :: '>' :: cs => some cs
  | cs => after? ['-', '-', '>'] cs

def html? : List Char → Option (List Char)
  | '!' :: '-' :: '-' :: cs => comment? cs
  | '!' :: '[' :: 'C' :: 'D' :: 'A' :: 'T' :: 'A' :: '[' :: cs => after? [']', ']', '>'] cs
  | '!' :: c :: cs => if isLetter c then after? ['>'] cs else none
  | '?' :: cs => after? ['?', '>'] cs
  | '/' :: cs => closing? cs
  | cs => opening? cs

def lowerLetter (c : Char) : Char :=
  if 'A' ≤ c ∧ c ≤ 'Z' then Char.ofNat (c.toNat + 32) else c

def lowerLetters (cs : List Char) : List Char := cs.map lowerLetter

end Vitae.Markdown.Tag
