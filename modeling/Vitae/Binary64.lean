/-!
# Floating-point numbers of 64 bits

A number is kept as a sign, a significand and a power of two, so that reading a decimal and writing
one are exact arithmetic on natural numbers. Reading rounds to nearest, a tie to the even
significand. Writing takes the fewest decimal digits that read back as the same number and, among
those, the nearest, a tie to the even one.
-/

namespace Vitae

/-- A binary floating-point number; `finite` stands for `± significand · 2 ^ exponent`. -/
inductive Binary64 where
  | nan
  | infinite (negative : Bool)
  | finite (negative : Bool) (significand : Nat) (exponent : Int)
  deriving DecidableEq, Repr, Inhabited

namespace Binary64

/-! ### Reading -/

def twoPow (n : Nat) : Nat := Nat.pow 2 n

def tenPow (n : Nat) : Nat := Nat.pow 10 n

/-- The quotient rounded to nearest, a tie to the even neighbour. -/
def divRound (num den : Nat) : Nat :=
  let quotient := num / den
  let rest := num % den
  if den < 2 * rest ∨ (2 * rest = den ∧ quotient % 2 = 1) then quotient + 1 else quotient

def leastExponent : Int := -1074

def greatestExponent : Int := 971

/-- `num / den` scaled by `2 ^ (-exponent)` and rounded. -/
def significandAt (num den : Nat) (exponent : Int) : Nat :=
  if 0 ≤ exponent then divRound num (den * twoPow exponent.toNat)
  else divRound (num * twoPow (-exponent).toNat) den

/-- The number nearest to `± num / den`; past the greatest finite number it is infinite. -/
def ofRatio (negative : Bool) (num den : Nat) : Binary64 :=
  if num = 0 then .finite negative 0 leastExponent
  else
    let size : Int := (Nat.log2 num : Int) - Nat.log2 den
    let low := max (size - 53) leastExponent
    let exponent := if significandAt num den low < twoPow 53 then low else low + 1
    let significand := significandAt num den exponent
    let (significand, exponent) :=
      if significand = twoPow 53 then (twoPow 52, exponent + 1) else (significand, exponent)
    if greatestExponent < exponent then .infinite negative
    else .finite negative significand exponent

def digitChars (n : Nat) : List Char := Nat.toDigits 10 n

/-- The number nearest to `± digits · 10 ^ exponent`. Where the number of digits alone puts the
value above `10 ^ 399` or below `10 ^ -400` it is infinite or zero. -/
def ofDecimal (negative : Bool) (digits : Nat) (exponent : Int) : Binary64 :=
  let point := exponent + (digitChars digits).length
  if digits = 0 ∨ point < -400 then .finite negative 0 leastExponent
  else if 400 < point then .infinite negative
  else ofRatio negative (digits * tenPow exponent.toNat) (tenPow (-exponent).toNat)

/-! ### Writing -/

structure Decimal where
  digits : Nat
  exponent : Int
  deriving DecidableEq, Repr, Inhabited

structure Fraction where
  num : Nat
  den : Nat

def Fraction.scaled (n : Nat) (exponent : Int) : Fraction :=
  ⟨n * twoPow exponent.toNat, twoPow (-exponent).toNat⟩

def Decimal.fraction (d : Decimal) : Fraction :=
  ⟨d.digits * tenPow d.exponent.toNat, tenPow (-d.exponent).toNat⟩

def Fraction.lt (a b : Fraction) : Bool := a.num * b.den < b.num * a.den

def Fraction.distance (a b : Fraction) : Fraction :=
  ⟨Int.natAbs (((a.num * b.den : Nat) : Int) - ((b.num * a.den : Nat) : Int)), a.den * b.den⟩

/-- The least `k`, up to the bound, with `1 ≤ v · 10 ^ k`. -/
def leadingZeros (v : Fraction) : Nat → Nat → Nat
  | 0, k => k
  | bound + 1, k =>
    if v.den ≤ v.num * tenPow k then k else leadingZeros v bound (k + 1)

/-- The power of ten just above a positive fraction: `10 ^ (p - 1) ≤ v < 10 ^ p`. -/
def magnitude (v : Fraction) : Int :=
  if v.den ≤ v.num then (digitChars (v.num / v.den)).length
  else 1 - (leadingZeros v 400 0 : Int)

/-- Does the decimal lie in the interval whose reals round to the number? The ends belong to it
when the significand is even. -/
def roundsTo (significand : Nat) (exponent : Int) (d : Decimal) : Bool :=
  let even := significand % 2 == 0
  let narrow := significand == twoPow 52 && leastExponent < exponent
  let low := Fraction.scaled (4 * significand - (if narrow then 1 else 2)) (exponent - 2)
  let high := Fraction.scaled (4 * significand + 2) (exponent - 2)
  let x := d.fraction
  let aboveLow := if even then !x.lt low else low.lt x
  let belowHigh := if even then !high.lt x else x.lt high
  aboveLow && belowHigh

/-- The decimal with `count` digits that rounds to the number and is nearest to it, if there is
one: of the two decimals around the number on that grid, the nearer that rounds back, and of two
equally near ones the even. -/
def nearestWith (significand : Nat) (exponent : Int) (count : Nat) : Option Decimal :=
  let v := Fraction.scaled significand exponent
  let grid := magnitude v - count
  let below : Nat := v.num * tenPow (-grid).toNat / (v.den * tenPow grid.toNat)
  let candidates := [Decimal.mk below grid, Decimal.mk (below + 1) grid].filter
    (roundsTo significand exponent)
  match candidates with
  | [a, b] =>
    if (a.fraction.distance v).lt (b.fraction.distance v) then some a
    else if (b.fraction.distance v).lt (a.fraction.distance v) then some b
    else some (if below % 2 = 0 then a else b)
  | [a] => some a
  | _ => none

/-- The shortest decimal that reads back as the number: the fewest digits for which one does. -/
def shortest (significand : Nat) (exponent : Int) : Decimal :=
  ((List.range 17).findSome? fun n => nearestWith significand exponent (n + 1)).getD
    ⟨significand, exponent⟩

/-- Digits without trailing zeros, and the number of zeros dropped. -/
def dropZeros (cs : List Char) : List Char × Nat :=
  let zeros := (cs.reverse.takeWhile (· == '0')).length
  (cs.take (cs.length - zeros), zeros)

/-- A positive number in the default notation: positional from `10 ^ -4` up to `10 ^ 16`, else
with an exponent of a sign and at least two digits. -/
def layout (d : Decimal) : List Char :=
  let (digits, zeros) := dropZeros (digitChars d.digits)
  let point : Int := d.exponent + zeros + digits.length
  if -4 < point ∧ point ≤ 16 then
    if point ≤ 0 then '0' :: '.' :: (List.replicate (-point).toNat '0' ++ digits)
    else if digits.length ≤ point.toNat then
      digits ++ List.replicate (point.toNat - digits.length) '0' ++ ['.', '0']
    else digits.take point.toNat ++ '.' :: digits.drop point.toNat
  else
    let power := point - 1
    let size := digitChars power.natAbs
    let size := if size.length < 2 then '0' :: size else size
    let mantissa := match digits with
      | [] => ['0']
      | [c] => [c]
      | c :: cs => c :: '.' :: cs
    mantissa ++ 'e' :: (if power < 0 then '-' else '+') :: size

def finiteText (negative : Bool) (significand : Nat) (exponent : Int) : List Char :=
  let sign := if negative then ['-'] else []
  if significand = 0 then sign ++ ['0', '.', '0'] else sign ++ layout (shortest significand exponent)

def text : Binary64 → List Char
  | .nan => ['n', 'a', 'n']
  | .infinite negative => (if negative then ['-'] else []) ++ ['i', 'n', 'f']
  | .finite negative significand exponent => finiteText negative significand exponent

/-! ### Comparison with integers -/

def isZero : Binary64 → Bool
  | .finite _ significand _ => significand == 0
  | _ => false

/-- Is the number below zero? Neither a negative zero nor a NaN is. -/
def isNegative : Binary64 → Bool
  | .nan => false
  | .infinite negative => negative
  | .finite negative significand _ => negative && significand != 0

def toInt? : Binary64 → Option Int
  | .finite negative significand exponent =>
    let magnitude? : Option Nat :=
      if 0 ≤ exponent then some (significand * twoPow exponent.toNat)
      else if significand % twoPow (-exponent).toNat = 0 then
        some (significand / twoPow (-exponent).toNat)
      else none
    magnitude?.map fun n => if negative then -(n : Int) else n
  | _ => none

/-- Numeric equality: zeros of both signs agree and a NaN equals nothing. -/
def same : Binary64 → Binary64 → Bool
  | .nan, _ => false
  | _, .nan => false
  | .infinite a, .infinite b => a == b
  | .finite a m e, .finite b n f => (m == 0 && n == 0) || (a == b && m == n && e == f)
  | _, _ => false

example : text (ofDecimal false 1 22) = ['1', 'e', '+', '2', '2'] := by decide +kernel
example : text (ofDecimal true 1 (-1)) = ['-', '0', '.', '1'] := by decide +kernel

end Binary64

end Vitae
