import Vitae.Json.Basic
import Vitae.Text.Quoted

/-!
# Values in messages

The text of a value inside a message: strings are quoted, arrays and objects list their items
between brackets. On its own a string is shown as it is. Integers of too many digits and values
without a text of their own cannot be shown, and nothing that holds one can.
-/

namespace Vitae.Json

def intText (n : Int) : List Char :=
  if n < 0 then '-' :: Nat.toDigits 10 n.natAbs else Nat.toDigits 10 n.natAbs

def commaJoin (parts : List (List Char)) : List Char := [',', ' '].intercalate parts

mutual

def display : Json → List Char
  | .null => "None".toList
  | .bool b => if b then "True".toList else "False".toList
  | .int n => intText n
  | .float x => x.text
  | .str s => Text.quoted s.toList
  | .arr items => '[' :: (commaJoin (displayItems items) ++ [']'])
  | .obj members => '\x7b' :: (commaJoin (displayMembers members) ++ ['\x7d'])
  | .thing t => (t.display.getD "").toList

def displayItems : List Json → List (List Char)
  | [] => []
  | item :: rest => display item :: displayItems rest

def displayMembers : List (String × Json) → List (List Char)
  | [] => []
  | (name, value) :: rest =>
    (Text.quoted name.toList ++ ':' :: ' ' :: display value) :: displayMembers rest

end

/-- The text of a value on its own: strings are not quoted. -/
def plain : Json → List Char
  | .str s => s.toList
  | .thing t => t.text.toList
  | value => display value

def displayString (value : Json) : String := String.ofList value.display

mutual

def isShowable : Json → Bool
  | .int n => decide (n.natAbs < 10 ^ digitLimit)
  | .arr items => areShowable items
  | .obj members => membersAreShowable members
  | .thing t => t.display.isSome
  | _ => true

def areShowable : List Json → Bool
  | [] => true
  | item :: rest => isShowable item && areShowable rest

def membersAreShowable : List (String × Json) → Bool
  | [] => true
  | (_, value) :: rest => isShowable value && membersAreShowable rest

end

/-- The text of a value inside a message, if it can be shown. -/
def shown? (value : Json) : Option String :=
  if value.isShowable then some value.displayString else none

end Vitae.Json
