import Vitae.Latex

/-!
# Lexing LaTeX

A lexer that knows nothing of documents. A backslash and the longest run of letters after it are a
control word, a backslash and any other character a control symbol. The lexer is a machine that
takes one character at a time, so that fragments can be lexed one after the other.
-/

namespace Vitae.Latex

inductive Lexeme where
  | word (name : List Char)
  | symbol (c : Char)
  | char (c : Char)
  deriving DecidableEq, Repr

/-- Where a lexer stands; the letters of a control word are kept backwards. -/
inductive LexerState where
  | text
  | slash
  | word (letters : List Char)
  deriving DecidableEq, Repr

def textStep (c : Char) : List Lexeme × LexerState :=
  if c = '\\' then ([], .slash) else ([.char c], .text)

def lexerStep : LexerState → Char → List Lexeme × LexerState
  | .text, c => textStep c
  | .slash, c => if c.isAlpha then ([], .word [c]) else ([.symbol c], .text)
  | .word letters, c =>
    if c.isAlpha then ([], .word (c :: letters))
    else (.word letters.reverse :: (textStep c).1, (textStep c).2)

def lexerRun : LexerState → List Char → List Lexeme × LexerState
  | state, [] => ([], state)
  | state, c :: cs =>
    let (now, next) := lexerStep state c
    let (later, last) := lexerRun next cs
    (now ++ later, last)

/-- The lexemes of a text. There are none if its last backslash is left dangling. -/
def lex (cs : List Char) : Option (List Lexeme) :=
  match lexerRun .text cs with
  | (lexemes, .text) => some lexemes
  | (lexemes, .word letters) => some (lexemes ++ [.word letters.reverse])
  | (_, .slash) => none

example : lex "a\\bc d\\$\\e".toList =
    some [.char 'a', .word ['b', 'c'], .char ' ', .char 'd', .symbol '$', .word ['e']] := by decide
example : lex "a\\".toList = none := by decide

theorem lexerRun_cons (state : LexerState) (c : Char) (cs : List Char) :
    lexerRun state (c :: cs) =
      ((lexerStep state c).1 ++ (lexerRun (lexerStep state c).2 cs).1,
        (lexerRun (lexerStep state c).2 cs).2) := rfl

theorem lexerRun_append (state : LexerState) (as bs : List Char) :
    lexerRun state (as ++ bs) =
      ((lexerRun state as).1 ++ (lexerRun (lexerRun state as).2 bs).1,
        (lexerRun (lexerRun state as).2 bs).2) := by
  induction as generalizing state with
  | nil => rfl
  | cons c as ih =>
    rw [List.cons_append, lexerRun_cons, ih, lexerRun_cons, List.append_assoc]

/-! ### Whole fragments -/

/-- A text that leaves no control sequence open, and its lexemes. -/
def LexesTo (cs : List Char) (lexemes : List Lexeme) : Prop :=
  lexerRun .text cs = (lexemes, .text)

theorem LexesTo.lex_eq {cs : List Char} {lexemes : List Lexeme} (h : LexesTo cs lexemes) :
    lex cs = some lexemes := by
  rw [lex, h]

theorem LexesTo.append {as bs : List Char} {lexemes more : List Lexeme} (ha : LexesTo as lexemes)
    (hb : LexesTo bs more) : LexesTo (as ++ bs) (lexemes ++ more) := by
  rw [LexesTo] at ha hb ⊢
  rw [lexerRun_append, ha, hb]

theorem lexesTo_char {c : Char} (h : c ≠ '\\') : LexesTo [c] [.char c] := by
  simp [LexesTo, lexerRun, lexerStep, textStep, h]

theorem lexesTo_symbol {c : Char} (h : c.isAlpha = false) : LexesTo ['\\', c] [.symbol c] := by
  simp [LexesTo, lexerRun, lexerStep, textStep, h]

theorem lexerRun_word {name : List Char} (letters : List Char)
    (h : ∀ c ∈ name, c.isAlpha = true) :
    lexerRun (.word letters) name = ([], .word (name.reverse ++ letters)) := by
  induction name generalizing letters with
  | nil => rfl
  | cons c name ih =>
    have hc := h c (List.mem_cons_self ..)
    have hname := ih (c :: letters) fun e he => h e (List.mem_cons_of_mem _ he)
    rw [lexerRun_cons, lexerStep, if_pos hc, hname]
    simp

/-- A control word is as long as there are letters; another character has to end it. -/
theorem lexesTo_word {name : List Char} (hname : ∀ c ∈ name, c.isAlpha = true) (hne : name ≠ [])
    {c : Char} (hc : c.isAlpha = false) (hslash : c ≠ '\\') :
    LexesTo ('\\' :: (name ++ [c])) [.word name, .char c] := by
  cases name with
  | nil => exact absurd rfl hne
  | cons first name =>
    have hfirst := hname first (List.mem_cons_self ..)
    have hrest := lexerRun_word [first] fun e he => hname e (List.mem_cons_of_mem _ he)
    rw [LexesTo, lexerRun_cons, List.cons_append]
    simp only [lexerStep, textStep, if_true, lexerRun_cons, hfirst, lexerRun_append, hrest]
    simp [lexerRun, hc, hslash]

/-! ### Closing up -/

theorem lexerStep_newline (state : LexerState) : (lexerStep state '\n').2 = .text := by
  cases state <;> rfl

/-- Closing up takes at most one line feed out of the lexemes. -/
theorem lexerRun_closeUp (state : LexerState) (cs : List Char) :
    lexerRun state (closeUp cs) = lexerRun state cs ∨
      ∃ before after, (lexerRun state cs).1 = before ++ .char '\n' :: after ∧
        lexerRun state (closeUp cs) = (before ++ after, (lexerRun state cs).2) := by
  induction cs using closeUp.induct generalizing state with
  | case1 cs =>
    right
    refine ⟨(lexerStep state '\n').1, (lexerRun .text cs).1, ?_, ?_⟩
    · rw [lexerRun_cons, lexerStep_newline, lexerRun_cons]
      rfl
    · rw [closeUp, lexerRun_cons, lexerRun_cons, lexerStep_newline, lexerRun_cons]
      rfl
  | case2 c cs hne ih =>
    rw [closeUp, lexerRun_cons, lexerRun_cons]
    · rcases ih (lexerStep state c).2 with heq | ⟨before, after, hbefore, hafter⟩
      · left
        rw [heq]
      · right
        refine ⟨(lexerStep state c).1 ++ before, after, ?_, ?_⟩
        · rw [hbefore, List.append_assoc]
        · rw [hafter, List.append_assoc]
    · exact hne
  | case3 => exact Or.inl rfl

/-- A fragment is closed up to one that has the same lexemes but perhaps for a line feed. -/
theorem LexesTo.closeUp {cs : List Char} {lexemes : List Lexeme} (h : LexesTo cs lexemes) :
    LexesTo (closeUp cs) lexemes ∨
      ∃ before after, lexemes = before ++ .char '\n' :: after ∧
        LexesTo (Latex.closeUp cs) (before ++ after) := by
  have hrun := lexerRun_closeUp .text cs
  rw [LexesTo] at h
  rw [h] at hrun
  exact hrun

end Vitae.Latex
