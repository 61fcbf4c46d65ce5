import Vitae.Json.Reader
import Vitae.Text.Hex

/-!
# YAML scalars

What an unquoted scalar stands for: null, a boolean, a number or, if it looks like none of them,
its own text.
-/

namespace Vitae.Config.Yaml

def nulls : List String := ["", "~", "null", "Null", "NULL"]

def trues : List String := ["yes", "Yes", "YES", "true", "True", "TRUE", "on", "On", "ON"]

def falses : List String := ["no", "No", "NO", "false", "False", "FALSE", "off", "Off", "OFF"]

def takeSign : List Char → Bool × List Char
  | '-' :: cs => (true, cs)
  | '+' :: cs => (false, cs)
  | cs => (false, cs)

/-- A digit of a base, or a low line, which is skipped. -/
def isGroupChar (base : Nat) (c : Char) : Bool :=
  c == '_' ||
    match Text.hexValue? c with
    | some n => decide (n < base)
    | none => false

def groupValue (base : Nat) (cs : List Char) : Nat :=
  (cs.filter (· != '_')).foldl (fun n c => base * n + (Text.hexValue? c).getD 0) 0

def groupOf? (base : Nat) (cs : List Char) : Option Nat :=
  if cs.all (isGroupChar base) && cs.any (· != '_') then some (groupValue base cs) else none

def colonParts : List Char → List (List Char)
  | [] => [[]]
  | c :: cs =>
    if c = ':' then [] :: colonParts cs
    else
      match colonParts cs with
      | [] => [[c]]
      | part :: rest => (c :: part) :: rest

def sixtieth? (cs : List Char) : Option Nat :=
  match cs with
  | [d] => if Json.isDigit d then some (Json.digitsValue cs) else none
  | [t, d] => if '0' ≤ t ∧ t ≤ '5' ∧ Json.isDigit d then some (Json.digitsValue cs) else none
  | _ => none

/-- Digits that do not start with a low line. -/
def startsWithDigit (cs : List Char) : Bool := (cs.head?.map Json.isDigit).getD false

def unsignedInt? (cs : List Char) : Option Nat :=
  match cs with
  | ['0'] => some 0
  | '0' :: 'b' :: digits => groupOf? 2 digits
  | '0' :: 'x' :: digits => groupOf? 16 digits
  | '0' :: digits => if digits.all (isGroupChar 8) then some (groupValue 8 digits) else none
  | _ =>
    if startsWithDigit cs then
      match colonParts cs with
      | [digits] => groupOf? 10 digits
      | first :: rest => do
        let first ← groupOf? 10 first
        let rest ← rest.mapM sixtieth?
        some (rest.foldl (fun n part => 60 * n + part) first)
      | [] => none
    else none

def int? (cs : List Char) : Option Int :=
  let (negative, digits) := takeSign cs
  (unsignedInt? digits).map fun n => if negative then -(n : Int) else n

/-- An exponent, which bears a sign; nothing stands for zero. -/
def exponent? (cs : List Char) : Option Int :=
  match cs with
  | [] => some 0
  | e :: sign :: digits =>
    if (e = 'e' ∨ e = 'E') ∧ (sign = '+' ∨ sign = '-') ∧ digits ≠ [] ∧ digits.all Json.isDigit then
      let value : Nat := Json.digitsValue digits
      some (if sign = '-' then -(value : Int) else value)
    else none
  | _ => none

/-- A floating-point number: digits with a point among them and perhaps an exponent, infinity or
no number. -/
def float? (cs : List Char) : Option Binary64 :=
  let (negative, unsigned) := takeSign cs
  let isPlaceChar := fun (c : Char) => Json.isDigit c || c == '_'
  let whole := unsigned.takeWhile isPlaceChar
  match unsigned.dropWhile isPlaceChar with
  | '.' :: rest =>
    let places := rest.takeWhile isPlaceChar
    match exponent? (rest.dropWhile isPlaceChar) with
    | some power =>
      if startsWithDigit whole || (whole.isEmpty && unsigned.length == cs.length &&
          startsWithDigit places) then
        let places := places.filter (· != '_')
        some (.ofDecimal negative
          (Json.digitsValue (whole.filter (· != '_') ++ places)) (power - places.length))
      else none
    | none =>
      if whole.isEmpty then
        let word := String.ofList rest
        if ["inf", "Inf", "INF"].contains word then some (.infinite negative)
        else if ["nan", "NaN", "NAN"].contains word && unsigned.length == cs.length then some .nan
        else none
      else none
  | _ => none

def resolve (cs : List Char) : Json :=
  let s := String.ofList cs
  if nulls.contains s then .null
  else if trues.contains s then .bool true
  else if falses.contains s then .bool false
  else
    match int? cs with
    | some n => .int n
    | none =>
      match float? cs with
      | some x => .float x
      | none => .str s

example : int? ['0', '1', '0'] = some 8 := by decide +kernel
example : int? ['1', ':', '3', '0'] = some 90 := by decide +kernel
example : int? ['0', '8'] = none := by decide +kernel

end Vitae.Config.Yaml
