import Vitae.Json.Basic

/-!
# TOML tables

A table while its document is read. A header or a dotted key opens the tables on its way; what was
opened by name may not be opened by name again, and what was given as a value may not be opened at
all. An array of tables grows by one table with each of its headers, and later keys go into the
last one.
-/

namespace Vitae.Config.Toml

/-- What a key stands for. A table that was opened by name bears the number of the section in
which that happened; only in later sections it counts as opened. -/
inductive Item where
  | value (v : Json)
  | table (opened : Option Nat) (entries : List (String × Item))
  | tables (before : List (List (String × Item))) (last : List (String × Item))

abbrev Table := List (String × Item)

namespace Table

def alter (name : String) (change : Option Item → Option Item) : Table → Option Table
  | [] => (change none).map fun item => [(name, item)]
  | e :: rest =>
    if e.1 = name then (change (some e.2)).map fun item => (name, item) :: rest
    else (alter name change rest).map (e :: ·)

/-- Changes the table that keys lead to; missing tables on the way are added. -/
def within (change : Table → Option Table) : List String → Table → Option Table
  | [], table => change table
  | name :: names, table =>
    table.alter name fun
      | none => (within change names []).map (.table none)
      | some (.table opened inner) => (within change names inner).map (.table opened)
      | some (.tables before last) => (within change names last).map (.tables before)
      | some (.value _) => none

def assign (name : String) (v : Json) (table : Table) : Option Table :=
  table.alter name fun
    | none => some (.value v)
    | some _ => none

/-- Gives a dotted key a value in a section; the tables on its way were not opened by name in an
earlier one. -/
def assignDotted (number : Nat) (v : Json) : List String → Table → Option Table
  | [], _ => none
  | [name], table => table.assign name v
  | name :: names, table =>
    table.alter name fun
      | none => (assignDotted number v names []).map (.table (some number))
      | some (.table opened inner) =>
        if (opened.map fun n => decide (n < number)).getD false then none
        else (assignDotted number v names inner).map (.table (some number))
      | _ => none

/-- Opens a table by its header; it was not opened by name before. -/
def openTable (number : Nat) (name : String) (table : Table) : Option Table :=
  table.alter name fun
    | none => some (.table (some number) [])
    | some (.table none inner) => some (.table (some number) inner)
    | _ => none

def addTable (name : String) (table : Table) : Option Table :=
  table.alter name fun
    | none => some (.tables [] [])
    | some (.tables before last) => some (.tables (before ++ [last]) [])
    | _ => none

/-- A step that ends at the last of some keys, inside the table that the others lead to. -/
def atLast (step : String → Table → Option Table) (names : List String) (table : Table) :
    Option Table :=
  match names.getLast? with
  | some name => table.within (step name) names.dropLast
  | none => none

end Table

mutual

def Item.toJson : Item → Json
  | .value v => v
  | .table _ entries => .obj (membersOf entries)
  | .tables before last => .arr (objectsOf before ++ [.obj (membersOf last)])

def membersOf : List (String × Item) → List (String × Json)
  | [] => []
  | (name, item) :: rest => (name, item.toJson) :: membersOf rest

def objectsOf : List (List (String × Item)) → List Json
  | [] => []
  | entries :: rest => .obj (membersOf entries) :: objectsOf rest

end

end Vitae.Config.Toml
