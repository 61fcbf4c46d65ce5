/-!
# Lines of a source

A line with its indentation measured in columns: a tab reaches to the next multiple of four. The
text of a line starts with its first character that is neither space nor tab, so taking columns off
the front only lowers the indentation.
-/

namespace Vitae.Markdown

/-- A line, or what is left of it. `column` is where the text starts in the source line. -/
structure Line where
  column : Nat
  indent : Nat
  text : List Char
  deriving Repr, DecidableEq

namespace Line

/-- The columns from one column to where a tab at it ends. -/
def tabWidth (column : Nat) : Nat := 4 - column % 4

def measure (column indent : Nat) : List Char → Line
  | [] => ⟨column, indent, []⟩
  | c :: cs =>
    if c = ' ' then measure (column + 1) (indent + 1) cs
    else if c = '\t' then measure (column + tabWidth column) (indent + tabWidth column) cs
    else ⟨column, indent, c :: cs⟩

def ofChars (cs : List Char) : Line := measure 0 0 cs

def isFiller (c : Char) : Bool := c == ' ' || c == '\t' || c == '\x0b' || c == '\x0c'

def isBlank (l : Line) : Bool := l.text.all isFiller

def dedent (l : Line) (columns : Nat) : Line := ⟨l.column, l.indent - columns, l.text⟩

def advance (l : Line) (count : Nat) : Line := measure (l.column + count) 0 (l.text.drop count)

def head? (l : Line) : Option Char := l.text.head?

end Line

end Vitae.Markdown
