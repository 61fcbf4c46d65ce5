import Vitae.Json.Reader

/-!
# Dates and times in TOML

A date, a time or both, then perhaps with an offset from universal time. Each is a value of a type of
its own: on its own it is written with hyphens and colons, among other values as the call that makes
it.
-/

namespace Vitae.Config.Toml

structure Date where
  year : Nat
  month : Nat
  day : Nat
  deriving DecidableEq, Repr

structure Time where
  hour : Nat
  minute : Nat
  second : Nat
  micro : Nat
  deriving DecidableEq, Repr

/-- An offset is a number of minutes. -/
inductive Moment where
  | date (d : Date)
  | time (t : Time)
  | both (d : Date) (t : Time) (offset : Option Int)
  deriving DecidableEq, Repr

/-! ### Texts -/

def padded (width n : Nat) : String :=
  let digits := Nat.toDigits 10 n
  String.ofList (List.replicate (width - digits.length) '0' ++ digits)

def Date.text (d : Date) : String := s!"{padded 4 d.year}-{padded 2 d.month}-{padded 2 d.day}"

def Time.text (t : Time) : String :=
  let whole := s!"{padded 2 t.hour}:{padded 2 t.minute}:{padded 2 t.second}"
  if t.micro = 0 then whole else s!"{whole}.{padded 6 t.micro}"

def offsetText (minutes : Int) : String :=
  let sign := if minutes < 0 then "-" else "+"
  s!"{sign}{padded 2 (minutes.natAbs / 60)}:{padded 2 (minutes.natAbs % 60)}"

def Date.parts (d : Date) : List Nat := [d.year, d.month, d.day]

/-- The parts of a time; seconds and what is below are left out where they are zero. -/
def Time.parts (t : Time) : List Nat :=
  if t.micro ≠ 0 then [t.hour, t.minute, t.second, t.micro]
  else if t.second ≠ 0 then [t.hour, t.minute, t.second]
  else [t.hour, t.minute]

def call (name : String) (parts : List String) : String :=
  let parts := ", ".intercalate parts
  s!"datetime.{name}({parts})"

/-- How an offset is shown; one below zero counts from the day before. -/
def offsetDisplay (minutes : Int) : String :=
  if minutes = 0 then "datetime.timezone.utc"
  else
    let days := if minutes < 0 then ["days=-1"] else []
    let seconds := (60 * minutes) % 86400
    call "timezone" [call "timedelta" (days ++ [s!"seconds={seconds}"])]

namespace Moment

def typeName : Moment → String
  | date _ => "date"
  | time _ => "time"
  | both .. => "datetime"

def text : Moment → String
  | date d => d.text
  | time t => t.text
  | both d t offset => s!"{d.text} {t.text}" ++ (offset.map offsetText).getD ""

def display (m : Moment) : String :=
  let numbers := fun (parts : List Nat) => parts.map fun n => s!"{n}"
  call m.typeName <| match m with
    | date d => numbers d.parts
    | time t => numbers t.parts
    | both d t offset =>
      numbers (d.parts ++ t.parts) ++ (offset.map fun o => s!"tzinfo={offsetDisplay o}").toList

def value (m : Moment) : Json := .thing ⟨m.typeName, true, m.text, some m.display⟩

end Moment

/-! ### Scanners -/

def twoDigits? : List Char → Option (Nat × List Char)
  | a :: b :: cs =>
    if Json.isDigit a && Json.isDigit b then some (Json.digitsValue [a, b], cs) else none
  | _ => none

/-- The millionths of a second that digits behind a point stand for; from the seventh on they do not
count. -/
def microOf (digits : List Char) : Nat :=
  Json.digitsValue ((digits ++ List.replicate 6 '0').take 6)

def readTime (cs : List Char) : Option (Time × List Char) := do
  let (hour, rest) ← twoDigits? cs
  let (minute, rest) ← twoDigits? (← Json.dropWord? [':'] rest)
  let (second, rest) ← twoDigits? (← Json.dropWord? [':'] rest)
  if hour < 24 ∧ minute < 60 ∧ second < 60 then
    let (micro, rest) := match Json.readFraction rest with
      | some (digits, after) => (microOf digits, after)
      | none => (0, rest)
    some (⟨hour, minute, second, micro⟩, rest)
  else none

/-- The offset from universal time at the start of a text, if there is one, and the text after it. -/
def takeOffset (cs : List Char) : Option Int × List Char :=
  match cs with
  | 'Z' :: rest => (some 0, rest)
  | 'z' :: rest => (some 0, rest)
  | c :: rest =>
    if c = '+' ∨ c = '-' then
      let offset := do
        let (hour, rest) ← twoDigits? rest
        let (minute, rest) ← twoDigits? (← Json.dropWord? [':'] rest)
        let minutes : Int := (60 * hour + minute : Nat)
        if hour < 24 ∧ minute < 60 then some (if c = '-' then -minutes else minutes, rest) else none
      match offset with
      | some (minutes, rest) => (some minutes, rest)
      | none => (none, cs)
    else (none, cs)
  | [] => (none, cs)

def daysIn (year month : Nat) : Nat :=
  if month = 2 then
    if year % 4 = 0 ∧ (year % 100 ≠ 0 ∨ year % 400 = 0) then 29 else 28
  else if [4, 6, 9, 11].contains month then 30
  else 31

def Date.exists (d : Date) : Bool := 1 ≤ d.year && d.day ≤ daysIn d.year d.month

def readDate (cs : List Char) : Option (Date × List Char) := do
  let (century, rest) ← twoDigits? cs
  let (last, rest) ← twoDigits? rest
  let (month, rest) ← twoDigits? (← Json.dropWord? ['-'] rest)
  let (day, rest) ← twoDigits? (← Json.dropWord? ['-'] rest)
  if 1 ≤ month ∧ month ≤ 12 ∧ 1 ≤ day ∧ day ≤ 31 then
    some (⟨100 * century + last, month, day⟩, rest)
  else none

/-- The moment of a date and of what is behind it: a letter or a blank leads to a time. -/
def onDate (d : Date) (behind : List Char) : Moment × List Char :=
  match behind with
  | c :: rest =>
    if c = 'T' ∨ c = 't' ∨ c = ' ' then
      match readTime rest with
      | some (t, rest) =>
        let (offset, rest) := takeOffset rest
        (.both d t offset, rest)
      | none => (.date d, behind)
    else (.date d, behind)
  | [] => (.date d, behind)

/-- A date, a time or both at the start of a text. A date that does not exist is malformed. -/
def readMoment (cs : List Char) : Option (Option (Moment × List Char)) :=
  match readDate cs with
  | some (d, rest) => some (if d.exists then some (onDate d rest) else none)
  | none => (readTime cs).map fun p => some (.time p.1, p.2)

end Vitae.Config.Toml
