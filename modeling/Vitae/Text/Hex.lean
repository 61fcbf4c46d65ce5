/-!
# Hexadecimal digits

Reading and writing numbers in base sixteen, and characters by their code point.
-/

namespace Vitae.Text

def hexValue? (c : Char) : Option Nat :=
  if '0' ≤ c ∧ c ≤ '9' then some (c.toNat - 48)
  else if 'a' ≤ c ∧ c ≤ 'f' then some (c.toNat - 87)
  else if 'A' ≤ c ∧ c ≤ 'F' then some (c.toNat - 55)
  else none

def hexDigit (n : Nat) : Char := Nat.digitChar n

def hexDigitUpper (n : Nat) : Char := if n < 10 then Nat.digitChar n else Char.ofNat (55 + n)

def hexDigits (n : Nat) : Nat → List Char
  | 0 => []
  | width + 1 => hexDigits (n / 16) width ++ [hexDigit (n % 16)]

/-- The number that hexadecimal digits write, after the value of those before them. -/
def hexNumber (n : Nat) : List Char → Option Nat
  | [] => some n
  | c :: cs => (hexValue? c).bind fun d => hexNumber (16 * n + d) cs

/-- The character of a code point; one that is no character gives the replacement character. -/
def charOf (n : Nat) : Char := if n.isValidChar then Char.ofNat n else Char.ofNat 0xFFFD

theorem length_hexDigits (n width : Nat) : (hexDigits n width).length = width := by
  induction width generalizing n with
  | zero => rfl
  | succ width ih => simp [hexDigits, ih]

example : hexDigits 0x1B 4 = ['0', '0', '1', 'b'] := by decide
example : hexNumber 0 ['2', '0', 'A', 'c'] = some 0x20AC := by decide

end Vitae.Text
