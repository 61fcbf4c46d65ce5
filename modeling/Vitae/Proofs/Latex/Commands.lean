import Vitae.Proofs.Latex.Lexer

/-!
# Reading LaTeX back

A reader of lexemes that knows nothing of documents. It takes the arguments of `\begin` and `\end`
and the first argument of `\href` out of the running text, with the command they belong to, and
takes the blank after an `\item`. Line feeds in the running text and in the destinations of links
are passed over.
-/

namespace Vitae.Latex

/-- What a fragment is made of. The destination of a link is kept as it is written; all braces of
the running text stand among the characters. -/
inductive Command where
  | begins (name : List Char)
  | ends (name : List Char)
  | item
  | href (url : List Lexeme)
  | word (name : List Char)
  | symbol (c : Char)
  | char (c : Char)
  deriving DecidableEq, Repr

/-- Where a reader stands; what it has read of an argument is kept backwards. In a destination the
braces that are open inside it are counted. -/
inductive Spot where
  | body
  | item
  | beforeName (opens : Bool)
  | inName (opens : Bool) (letters : List Char)
  | beforeUrl
  | inUrl (depth : Nat) (done : List Lexeme)
  deriving DecidableEq, Repr

/-- What a control word in the running text ends, and what it starts. -/
def wordStep (name : List Char) : List Command × Spot :=
  if name = "begin".toList then ([], .beforeName true)
  else if name = "end".toList then ([], .beforeName false)
  else if name = "href".toList then ([], .beforeUrl)
  else if name = "item".toList then ([], .item)
  else ([.word name], .body)

def urlStep (depth : Nat) (done : List Lexeme) (lexeme : Lexeme) : List Command × Spot :=
  if lexeme = .char '\n' then ([], .inUrl depth done)
  else if lexeme = .char '\x7b' then ([], .inUrl (depth + 1) (lexeme :: done))
  else if lexeme = .char '\x7d' then
    if depth = 0 then ([.href done.reverse], .body) else ([], .inUrl (depth - 1) (lexeme :: done))
  else ([], .inUrl depth (lexeme :: done))

def readerStep : Spot → Lexeme → Option (List Command × Spot)
  | .body, .word name => some (wordStep name)
  | .body, .symbol c => some ([.symbol c], .body)
  | .body, .char c => some (if c = '\n' then [] else [.char c], .body)
  | .item, lexeme => if lexeme = .char ' ' then some ([.item], .body) else none
  | .beforeName opens, lexeme => if lexeme = .char '\x7b' then some ([], .inName opens []) else none
  | .inName opens letters, .char c =>
    if c = '\x7d' then
      some ([if opens then .begins letters.reverse else .ends letters.reverse], .body)
    else if c.isAlpha then some ([], .inName opens (c :: letters))
    else none
  | .inName _ _, _ => none
  | .beforeUrl, lexeme => if lexeme = .char '\x7b' then some ([], .inUrl 0 []) else none
  | .inUrl depth done, lexeme => some (urlStep depth done lexeme)

/-- The commands that are finished within lexemes, and the spot after them. -/
def readerRun : Spot → List Lexeme → Option (List Command × Spot)
  | spot, [] => some ([], spot)
  | spot, lexeme :: lexemes => do
    let (now, next) ← readerStep spot lexeme
    let (later, last) ← readerRun next lexemes
    some (now ++ later, last)

/-- The commands of lexemes. There are none if an argument is missing or not closed, if the name of
an environment is not made of letters, or if no blank follows an `\item`. -/
def commands (lexemes : List Lexeme) : Option (List Command) :=
  match readerRun .body lexemes with
  | some (found, .body) => some found
  | _ => none

example : (lex "\\href\x7ba\\%\x7d\x7bb\\$\n\x7d".toList).bind commands =
    some [.href [.char 'a', .symbol '%'], .char '\x7b', .char 'b', .symbol '$', .char '\x7d'] := by
  decide

theorem readerRun_append {spot middle last : Spot} {as bs : List Lexeme} {found more : List Command}
    (ha : readerRun spot as = some (found, middle)) (hb : readerRun middle bs = some (more, last)) :
    readerRun spot (as ++ bs) = some (found ++ more, last) := by
  induction as generalizing spot found with
  | nil =>
    simp only [readerRun, Option.some.injEq, Prod.mk.injEq] at ha
    obtain ⟨rfl, rfl⟩ := ha
    exact hb
  | cons lexeme as ih =>
    rw [readerRun] at ha
    obtain ⟨⟨now, next⟩, hstep, ha⟩ := Option.bind_eq_some_iff.1 ha
    obtain ⟨⟨later, _⟩, hrun, ha⟩ := Option.bind_eq_some_iff.1 ha
    simp only [Option.some.injEq, Prod.mk.injEq] at ha
    obtain ⟨rfl, rfl⟩ := ha
    rw [List.cons_append, readerRun, hstep]
    simp only [bind, Option.bind, ih hrun, List.append_assoc]

/-- Wherever a line feed may stand it is passed over. -/
theorem readerStep_newline {spot : Spot} {r : List Command × Spot}
    (h : readerStep spot (.char '\n') = some r) : r = ([], spot) := by
  cases spot with
  | body => exact (Option.some.inj h).symm
  | item => cases h
  | beforeName opens => cases h
  | inName opens letters => cases h
  | beforeUrl => cases h
  | inUrl depth done => exact (Option.some.inj h).symm

theorem readerRun_drop_newline {spot : Spot} {before after : List Lexeme}
    {r : List Command × Spot} (h : readerRun spot (before ++ .char '\n' :: after) = some r) :
    readerRun spot (before ++ after) = some r := by
  induction before generalizing spot r with
  | nil =>
    rw [List.nil_append, readerRun] at h
    obtain ⟨now, hstep, h⟩ := Option.bind_eq_some_iff.1 h
    obtain ⟨later, hrun, h⟩ := Option.bind_eq_some_iff.1 h
    rw [readerStep_newline hstep] at hrun h
    rw [List.nil_append, hrun, ← h]
    rfl
  | cons lexeme before ih =>
    rw [List.cons_append, readerRun] at h
    obtain ⟨now, hstep, h⟩ := Option.bind_eq_some_iff.1 h
    obtain ⟨later, hrun, h⟩ := Option.bind_eq_some_iff.1 h
    rw [List.cons_append, readerRun, hstep]
    simp only [bind, Option.bind, ih hrun]
    exact h

/-! ### What a fragment says -/

/-- The number of open braces after a lexeme; none if one is closed that is not open. -/
def braceStep (depth : Nat) (lexeme : Lexeme) : Option Nat :=
  if lexeme = .char '\x7b' then some (depth + 1)
  else if lexeme = .char '\x7d' then if depth = 0 then none else some (depth - 1)
  else some depth

def braces : Nat → List Lexeme → Option Nat
  | depth, [] => some depth
  | depth, lexeme :: lexemes => do
    let depth ← braceStep depth lexeme
    braces depth lexemes

/-- The open environments after some commands, the innermost first; none if another one than the
innermost is closed. -/
def nest : List (List Char) → List Command → Option (List (List Char))
  | opened, [] => some opened
  | opened, .begins name :: rest => nest (name :: opened) rest
  | [], .ends _ :: _ => none
  | innermost :: opened, .ends name :: rest =>
    if innermost = name then nest opened rest else none
  | opened, _ :: rest => nest opened rest

/-- The character that a command of the running text writes: braces group, and of the control words
three stand for a character. -/
def Command.text? : Command → Option Char
  | .char c => if c = '\x7b' ∨ c = '\x7d' then none else some c
  | .symbol c => some c
  | .word name =>
    if name = "textbackslash".toList then some '\\'
    else if name = "textasciitilde".toList then some '~'
    else if name = "textasciicircum".toList then some '^'
    else none
  | _ => none

def Lexeme.character? : Lexeme → Option Char
  | .char c => some c
  | .symbol c => some c
  | .word _ => none

def Command.url? : Command → Option (List Char)
  | .href url => some (url.filterMap Lexeme.character?)
  | _ => none

theorem braces_append {depth middle : Nat} {as : List Lexeme} (bs : List Lexeme)
    (h : braces depth as = some middle) : braces depth (as ++ bs) = braces middle bs := by
  induction as generalizing depth with
  | nil =>
    rw [braces, Option.some.injEq] at h
    rw [h, List.nil_append]
  | cons lexeme as ih =>
    rw [braces] at h
    obtain ⟨next, hstep, hrest⟩ := Option.bind_eq_some_iff.1 h
    rw [List.cons_append, braces, hstep]
    exact ih hrest

/-- Line feeds do not count. -/
theorem braces_drop_newline (depth : Nat) (before after : List Lexeme) :
    braces depth (before ++ .char '\n' :: after) = braces depth (before ++ after) := by
  induction before generalizing depth with
  | nil => rfl
  | cons lexeme before ih =>
    rw [List.cons_append, List.cons_append, braces, braces]
    simp only [ih]

theorem nest_append {opened after : List (List Char)} {found : List Command} (more : List Command)
    (h : nest opened found = some after) : nest opened (found ++ more) = nest after more := by
  induction found generalizing opened with
  | nil =>
    rw [nest, Option.some.injEq] at h
    rw [h, List.nil_append]
  | cons command found ih =>
    cases command with
    | ends name =>
      cases opened with
      | nil => cases h
      | cons innermost opened =>
        rw [nest] at h
        rw [List.cons_append, nest]
        by_cases hname : innermost = name
        · rw [if_pos hname] at h ⊢
          exact ih h
        · rw [if_neg hname] at h
          cases h
    | _ => exact ih h

end Vitae.Latex
