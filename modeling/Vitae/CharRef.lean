import Vitae.CharRef.Capitals
import Vitae.CharRef.SmallFromM
import Vitae.CharRef.SmallToL
import Vitae.CharRef.Unclosed
import Vitae.Text.Hex
import Vitae.Text.Ranges

/-!
# Character references

Decoding of `&name;`, `&#10;` and `&#xA;` in text. Some names are understood without a semicolon;
of those the longest that the text starts with counts. Numbers from 128 to 159 stand for the
characters of the Western code page, other numbers that are no character give the replacement
character or, for controls and noncharacters, nothing. Decoding is a single pass: what a reference
gives is not looked at again.
-/

namespace Vitae.CharRef

/-! ### Numbers -/

def codePage : List Nat :=
  [0x20AC, 0x81, 0x201A, 0x192, 0x201E, 0x2026, 0x2020, 0x2021, 0x2C6, 0x2030, 0x160, 0x2039,
   0x152, 0x8D, 0x17D, 0x8F, 0x90, 0x2018, 0x2019, 0x201C, 0x201D, 0x2022, 0x2013, 0x2014, 0x2DC,
   0x2122, 0x161, 0x203A, 0x153, 0x9D, 0x17E, 0x178]

def forbiddenControls : List (Nat × Nat) := [(0x1, 0x8), (0xB, 0xB), (0xE, 0x1F), (0x7F, 0x7F)]

/-- Code points that are set aside and belong to no character. -/
def isNoncharacter (n : Nat) : Bool :=
  (0xFDD0 ≤ n && n ≤ 0xFDEF) || n % 0x10000 == 0xFFFE || n % 0x10000 == 0xFFFF

def decodeNumber (n : Nat) : List Char :=
  if n = 0 ∨ 0x10FFFF < n then [Char.ofNat 0xFFFD]
  else if 0x80 ≤ n ∧ n < 0xA0 then [Char.ofNat (codePage.getD (n - 0x80) n)]
  else if Text.inRanges forbiddenControls n ∨ isNoncharacter n then []
  else [Text.charOf n]

/-! ### Names -/

def namesWith (c : Char) : List (String × List Nat) :=
  (capitalNames.lookup c).getD ((smallNamesToL.lookup c).getD ((smallNamesFromM.lookup c).getD []))

def closed? : List Char → Option (List Char)
  | [] => none
  | c :: cs => ((namesWith c).lookup (String.ofList (c :: cs))).map (·.map Char.ofNat)

def unclosed? (name : List Char) : Option (List Char) :=
  (unclosedNames.lookup (String.ofList name)).map (·.map Char.ofNat)

/-- The longest beginning of a text, of at most `size` characters, that is a name without
semicolon: what it stands for and its length. Names have at least two letters. -/
def longestUnclosed? (cs : List Char) : Nat → Option (List Char × Nat)
  | 0 => none
  | 1 => none
  | size + 2 =>
    match unclosed? (cs.take (size + 2)) with
    | some text => some (text, size + 2)
    | none => longestUnclosed? cs (size + 1)

def isNameChar (c : Char) : Bool :=
  !(c == '\t' || c == '\n' || c == '\x0c' || c == ' ' || c == '<' || c == '&' || c == '#' ||
    c == ';')

def nameLimit : Nat := 32

def named? (needsSemicolon : Bool) (cs : List Char) : Option (List Char × Nat) :=
  let name := (cs.takeWhile isNameChar).take nameLimit
  match cs.drop name.length with
  | ';' :: _ =>
    match closed? name with
    | some text => some (text, name.length + 1)
    | none => longestUnclosed? name name.length
  | _ => if needsSemicolon then none else longestUnclosed? name name.length

/-! ### References -/

def isDecimal (c : Char) : Bool := '0' ≤ c && c ≤ '9'

def decimalValue (cs : List Char) : Nat := cs.foldl (fun n c => 10 * n + (c.toNat - 48)) 0

/-- A decimal reference after its `&#`. Where a semicolon is needed it has at most seven digits. -/
def decimal? (needsSemicolon : Bool) (cs : List Char) : Option (List Char × Nat) :=
  let digits := cs.takeWhile isDecimal
  if digits.isEmpty then none
  else
    match cs.drop digits.length with
    | ';' :: _ =>
      if needsSemicolon ∧ 7 < digits.length then none
      else some (decodeNumber (decimalValue digits), digits.length + 2)
    | _ =>
      if needsSemicolon then none
      else some (decodeNumber (decimalValue digits), digits.length + 1)

def hexadecimal? (needsSemicolon : Bool) (cs : List Char) : Option (List Char × Nat) :=
  let digits := cs.takeWhile fun c => (Text.hexValue? c).isSome
  if digits.isEmpty then none
  else
    match cs.drop digits.length with
    | ';' :: _ =>
      (Text.hexNumber 0 digits).map fun n => (decodeNumber n, digits.length + 3)
    | _ =>
      if needsSemicolon then none
      else (Text.hexNumber 0 digits).map fun n => (decodeNumber n, digits.length + 2)

def reference? (needsSemicolon : Bool) : List Char → Option (List Char × Nat)
  | '#' :: 'x' :: cs => hexadecimal? needsSemicolon cs
  | '#' :: 'X' :: cs => hexadecimal? needsSemicolon cs
  | '#' :: cs => decimal? needsSemicolon cs
  | cs => named? needsSemicolon cs

/-- Decodes a text of which the first `skip` characters belong to a reference already decoded. -/
def decodeFrom (needsSemicolon : Bool) : Nat → List Char → List Char
  | _, [] => []
  | skip + 1, _ :: cs => decodeFrom needsSemicolon skip cs
  | 0, c :: cs =>
    if c = '&' then
      match reference? needsSemicolon cs with
      | some (text, size) => text ++ decodeFrom needsSemicolon size cs
      | none => c :: decodeFrom needsSemicolon 0 cs
    else c :: decodeFrom needsSemicolon 0 cs

/-- A text with its references decoded. A decimal reference may have any number of digits here; more
than `Json.digitLimit` of them are beyond the limit of integers read from text, and no text comes of
them then. -/
def decode (cs : List Char) : List Char := decodeFrom false 0 cs

/-- A text with those references decoded that end with a semicolon. -/
def decodeClosed (cs : List Char) : List Char := decodeFrom true 0 cs

example : decode "&amp;amp; &#65;".toList = "&amp; A".toList := by decide +kernel
example : decode "&notit;".toList = "¬it;".toList := by decide +kernel

end Vitae.CharRef
