import Vitae.Binary64

/-!
# JSON values

Integers of any size and floating-point numbers are told apart. An object keeps its members in the
order in which their names first appeared; a name that is given again replaces the value in place.
Where JSON values are used any other value may stand: config files hold dates and times, and callers
may put anything into a tree.
-/

namespace Vitae

/-- A value of a type that JSON has not. What is known of it is the name of its type, whether it
counts as true, its text on its own and, if it has one, its text among other values. -/
structure Thing where
  typeName : String
  isTrue : Bool := true
  text : String
  display : Option String
  deriving DecidableEq, Repr, Inhabited

inductive Json where
  | null
  | bool (b : Bool)
  | int (n : Int)
  | float (x : Binary64)
  | str (s : String)
  | arr (items : List Json)
  | obj (members : List (String × Json))
  | thing (t : Thing)
  deriving Repr, Inhabited

namespace Json

/-- The most digits that an integer may have where it is read from text or written as text. -/
def digitLimit : Nat := 4300

/-! ### Objects -/

def member? (members : List (String × Json)) (name : String) : Option Json :=
  (members.find? (·.1 == name)).map (·.2)

/-- The members after a name is given a value: in place if the name is there, else at the end. -/
def setMember (members : List (String × Json)) (name : String) (value : Json) :
    List (String × Json) :=
  match members with
  | [] => [(name, value)]
  | (n, v) :: rest =>
    if n == name then (n, value) :: rest else (n, v) :: setMember rest name value

def collect (pairs : List (String × Json)) : List (String × Json) :=
  pairs.foldl (fun members p => setMember members p.1 p.2) []

def get? (name : String) : Json → Option Json
  | .obj members => member? members name
  | _ => none

def field (name : String) (value : Json) : Json := (value.get? name).getD .null

/-! ### Kinds and truth -/

def typeName : Json → String
  | .null => "NoneType"
  | .bool _ => "bool"
  | .int _ => "int"
  | .float _ => "float"
  | .str _ => "str"
  | .arr _ => "list"
  | .obj _ => "dict"
  | .thing t => t.typeName

/-- Null, false, zero and whatever is empty count as false. -/
def truthy : Json → Bool
  | .null => false
  | .bool b => b
  | .int n => n != 0
  | .float x => !x.isZero
  | .str s => s != ""
  | .arr items => !items.isEmpty
  | .obj members => !members.isEmpty
  | .thing t => t.isTrue

inductive Number where
  | int (n : Int)
  | float (x : Binary64)

/-- Booleans count as zero and one. -/
def number? : Json → Option Number
  | .bool b => some (.int (if b then 1 else 0))
  | .int n => some (.int n)
  | .float x => some (.float x)
  | _ => none

def Number.same : Number → Number → Bool
  | .int a, .int b => a == b
  | .float x, .float y => x.same y
  | .int a, .float y => y.toInt? == some a
  | .float x, .int b => x.toInt? == some b

mutual

/-- Equality of values: numbers and booleans by value, objects without regard to order. -/
def same : Json → Json → Bool
  | .null, .null => true
  | .str a, .str b => a == b
  | .arr a, .arr b => sameItems a b
  | .obj a, .obj b => a.length == b.length && sameMembers a b
  | .thing a, .thing b => a == b
  | a, b =>
    match a.number?, b.number? with
    | some x, some y => x.same y
    | _, _ => false

def sameItems : List Json → List Json → Bool
  | [], [] => true
  | a :: as, b :: bs => same a b && sameItems as bs
  | _, _ => false

def sameMembers : List (String × Json) → List (String × Json) → Bool
  | [], _ => true
  | (name, a) :: as, bs =>
    (match member? bs name with
      | some b => same a b
      | none => false) && sameMembers as bs

end

mutual

/-- Is a value one of JSON throughout? -/
def isJson : Json → Bool
  | .arr items => areJson items
  | .obj members => membersAreJson members
  | .thing _ => false
  | _ => true

def areJson : List Json → Bool
  | [] => true
  | item :: rest => isJson item && areJson rest

def membersAreJson : List (String × Json) → Bool
  | [] => true
  | (_, value) :: rest => isJson value && membersAreJson rest

end

end Json

end Vitae
