import Vitae.Text.Ranges

/-!
# White space

The white space of every script, with the four information separators, and what is done with it:
stripping the ends of a text and splitting it into words. Zero-width characters are no white space.
-/

namespace Vitae.Text

def blankRanges : List (Nat × Nat) :=
  [(0x9, 0xD), (0x1C, 0x20), (0x85, 0x85), (0xA0, 0xA0), (0x1680, 0x1680), (0x2000, 0x200A),
   (0x2028, 0x2029), (0x202F, 0x202F), (0x205F, 0x205F), (0x3000, 0x3000)]

def isBlank (c : Char) : Bool := inRanges blankRanges c.toNat

def stripStart (p : Char → Bool) (cs : List Char) : List Char := cs.dropWhile p

def stripEnd (p : Char → Bool) (cs : List Char) : List Char := (cs.reverse.dropWhile p).reverse

def stripOf (p : Char → Bool) (cs : List Char) : List Char := stripEnd p (stripStart p cs)

def strip (cs : List Char) : List Char := stripOf isBlank cs

def wordsFrom (word : List Char) : List Char → List (List Char)
  | [] => if word.isEmpty then [] else [word.reverse]
  | c :: cs =>
    if isBlank c then
      if word.isEmpty then wordsFrom [] cs else word.reverse :: wordsFrom [] cs
    else wordsFrom (c :: word) cs

def words (cs : List Char) : List (List Char) := wordsFrom [] cs

example : strip [' ', 'a', ' ', 'b', '\n'] = ['a', ' ', 'b'] := by decide
example : words [' ', 'a', '\t', ' ', 'b'] = [['a'], ['b']] := by decide

end Vitae.Text
