import Vitae.Json.Display

/-!
# Writing JSON

Text outside ASCII is written as it is. Without an indentation the value stands on one line, with a
blank after every comma and colon. With one, every item and member has a line of its own, indented
once more than its container; empty arrays and objects stay closed.
-/

namespace Vitae.Json

/-! ### Strings -/

def writeChar (c : Char) : List Char :=
  if c = '"' then ['\\', '"']
  else if c = '\\' then ['\\', '\\']
  else if c = '\n' then ['\\', 'n']
  else if c = '\r' then ['\\', 'r']
  else if c = '\t' then ['\\', 't']
  else if c = '\x0c' then ['\\', 'f']
  else if c = '\x08' then ['\\', 'b']
  else if c.toNat < 0x20 then '\\' :: 'u' :: Text.hexDigits c.toNat 4
  else [c]

def writeString (s : String) : List Char := '"' :: (s.toList.flatMap writeChar ++ ['"'])

/-! ### Values -/

/-- How items are set apart: on one line, or on lines of their own with the given text once per
level in front. -/
inductive Layout where
  | line
  | indented (unit : List Char)
  deriving DecidableEq, Repr

/-- What stands before the first item of a container at this level, and before its end. -/
def Layout.break (level : Nat) : Layout → List Char
  | .line => []
  | .indented unit => '\n' :: (List.replicate level unit).flatten

/-- What stands between two items of a container whose items are at this level. -/
def Layout.between (level : Nat) : Layout → List Char
  | .line => [',', ' ']
  | .indented unit => ',' :: Layout.break level (.indented unit)

def writeFloat : Binary64 → List Char
  | .nan => "NaN".toList
  | .infinite negative => if negative then "-Infinity".toList else "Infinity".toList
  | x => x.text

mutual

def writeValue (layout : Layout) (level : Nat) : Json → List Char
  | .null => "null".toList
  | .bool b => if b then "true".toList else "false".toList
  | .int n => intText n
  | .float x => writeFloat x
  | .str s => writeString s
  | .arr [] => ['[', ']']
  | .arr (item :: rest) =>
    '[' :: (layout.break (level + 1) ++ (writeValue layout (level + 1) item ++
      (writeItems layout (level + 1) rest ++ (layout.break level ++ [']']))))
  | .obj [] => ['\x7b', '\x7d']
  | .obj ((name, value) :: rest) =>
    '\x7b' :: (layout.break (level + 1) ++ (writeString name ++ (':' :: ' ' ::
      (writeValue layout (level + 1) value ++
        (writeMembers layout (level + 1) rest ++ (layout.break level ++ ['\x7d']))))))
  | .thing _ => []

def writeItems (layout : Layout) (level : Nat) : List Json → List Char
  | [] => []
  | item :: rest =>
    layout.between level ++ (writeValue layout level item ++ writeItems layout level rest)

def writeMembers (layout : Layout) (level : Nat) : List (String × Json) → List Char
  | [] => []
  | (name, value) :: rest =>
    layout.between level ++ (writeString name ++ (':' :: ' ' ::
      (writeValue layout level value ++ writeMembers layout level rest)))

end

def write (layout : Layout) (value : Json) : String := String.ofList (writeValue layout 0 value)

/-- The text of a value, if it is one of JSON throughout; there is none of other values. -/
def write? (layout : Layout) (value : Json) : Option String :=
  if value.isJson then some (write layout value) else none

end Vitae.Json
