import Vitae.Text.Lines

/-!
# Paths

A path is the list of names on the way to something, from the root or from the working folder.
Empty names and single dots say nothing and are dropped; two dots stand for the folder above.
-/

namespace Vitae

/-- A path: the mark of the root, empty for a path from the working folder, and the names. -/
structure Path where
  root : String
  names : List String
  deriving DecidableEq, Repr, Inhabited

namespace Path

def parts : List Char → List (List Char)
  | [] => [[]]
  | c :: cs => if c = '/' then [] :: parts cs else Text.consLine c (parts cs)

def namesIn (cs : List Char) : List String :=
  ((parts cs).filter fun part => part ≠ [] ∧ part ≠ ['.']).map String.ofList

/-- The mark of the root that a text begins with: exactly two slashes are kept, more are one. -/
def rootOf : List Char → String
  | '/' :: '/' :: '/' :: _ => "/"
  | '/' :: '/' :: _ => "//"
  | '/' :: _ => "/"
  | _ => ""

def ofString (s : String) : Path := ⟨rootOf s.toList, namesIn s.toList⟩

/-- The text of a path; the working folder is a single dot. -/
def text (p : Path) : String :=
  let s := p.root ++ "/".intercalate p.names
  if s = "" then "." else s

def name (p : Path) : String := p.names.getLastD ""

/-- The ending of a name from its last dot on; a dot at either end of the name starts none. -/
def suffixOf (name : List Char) : List Char :=
  let ending := (name.reverse.takeWhile (· != '.')).reverse
  if ending.isEmpty || ending.length + 1 ≥ name.length then [] else '.' :: ending

def suffix (p : Path) : String := String.ofList (suffixOf p.name.toList)

/-- Names without two dots: each takes away the name before it. At the start, where nothing is
above, they are dropped. -/
def collapse (names : List String) : List String :=
  names.foldl (fun before name => if name = ".." then before.dropLast else before ++ [name]) []

example : namesIn ['a', '/', '/', '.', '/', 'b', '/'] = ["a", "b"] := by decide +kernel
example : (ofString "").text = "." := by cbv
example : suffixOf ['c', '.', 't', 'x', '.', 'y'] = ['.', 'y'] := by decide
example : suffixOf ['.', 'y'] = [] ∧ suffixOf ['c', '.'] = [] ∧ suffixOf ['c'] = [] := by decide
example : collapse ["a", "..", "..", "b"] = ["b"] := by decide

end Path

end Vitae
