import Vitae.Text.Blank
import Vitae.Text.Digit

/-!
# Integers in text

A decimal integer as a person writes it: a sign may precede the digits, single low lines may stand
between two digits, the digits may be of any script, and white space may surround the whole.
-/

namespace Vitae.Text

/-- The values of digits; a single low line may stand between two. -/
def groupedDigits? : List Char → Option (List Nat)
  | [] => none
  | [c] => (digitValue? c).map ([·])
  | c :: '_' :: d :: rest => do
    let value ← digitValue? c
    let values ← groupedDigits? (d :: rest)
    some (value :: values)
  | c :: d :: rest => do
    let value ← digitValue? c
    let values ← groupedDigits? (d :: rest)
    some (value :: values)

def ofDigits (values : List Nat) : Nat := values.foldl (fun n value => 10 * n + value) 0

/-- Numerals of more digits are not read. -/
def numeralLimit : Nat := 4300

def numeral? (cs : List Char) : Option Nat :=
  match groupedDigits? cs with
  | some values => if values.length ≤ numeralLimit then some (ofDigits values) else none
  | none => none

/-- The white space around a numeral: the four information separators are none. -/
def isNumeralBlank (c : Char) : Bool := isBlank c && !(0x1C ≤ c.toNat && c.toNat ≤ 0x1F)

def integer? (cs : List Char) : Option Int :=
  match stripOf isNumeralBlank cs with
  | '-' :: digits => (numeral? digits).map fun n => -(n : Int)
  | '+' :: digits => (numeral? digits).map fun n => (n : Int)
  | digits => (numeral? digits).map fun n => (n : Int)

example : integer? [' ', '+', '1', '_', '0'] = some 10 := by decide +kernel
example : integer? ['-', '٣'] = some (-3) := by decide +kernel
example : integer? ['1', '_', '_', '0'] = none := by decide +kernel
example : integer? ['1', '_'] = none := by decide +kernel

end Vitae.Text
