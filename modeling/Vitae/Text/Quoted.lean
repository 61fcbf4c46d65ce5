import Vitae.Text.Hex
import Vitae.Text.Printable

/-!
# Quoted text

The text of a string as a message shows it: between single quotes, or between double quotes when
it holds a single quote and no double one. The quote, the backslash, line breaks, tabs and all
characters that do not print are escaped.
-/

namespace Vitae.Text

def escapeCode (c : Char) : List Char :=
  if c.toNat < 0x100 then '\\' :: 'x' :: hexDigits c.toNat 2
  else if c.toNat < 0x10000 then '\\' :: 'u' :: hexDigits c.toNat 4
  else '\\' :: 'U' :: hexDigits c.toNat 8

def quoteChar (quote c : Char) : List Char :=
  if c = quote ∨ c = '\\' then ['\\', c]
  else if c = '\n' then ['\\', 'n']
  else if c = '\r' then ['\\', 'r']
  else if c = '\t' then ['\\', 't']
  else if isPrintable c then [c]
  else escapeCode c

def quoteFor (cs : List Char) : Char := if '\'' ∈ cs ∧ '"' ∉ cs then '"' else '\''

def quoted (cs : List Char) : List Char :=
  let quote := quoteFor cs
  quote :: (cs.flatMap (quoteChar quote) ++ [quote])

example : quoted ['i', 't', '\'', 's'] = ['"', 'i', 't', '\'', 's', '"'] := by decide
example : quoted ['\x7f', '\\'] = ['\'', '\\', 'x', '7', 'f', '\\', '\\', '\''] := by decide +kernel

end Vitae.Text
