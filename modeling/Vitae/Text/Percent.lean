import Vitae.Text.Hex

/-!
# Percent-encoding

Characters that may not stand in a destination are written as the bytes of their UTF-8 form, each
as a percent sign and two hexadecimal digits. The percent sign itself is kept, so what is already
encoded stays as it is.
-/

namespace Vitae.Text

def isUrlChar (c : Char) : Bool :=
  ('a' ≤ c && c ≤ 'z') || ('A' ≤ c && c ≤ 'Z') || ('0' ≤ c && c ≤ '9') ||
    "_.-~:/?#@!$&()*+,;=%".toList.contains c

def percentByte (b : UInt8) : List Char :=
  ['%', hexDigitUpper (b.toNat / 16), hexDigitUpper (b.toNat % 16)]

def percentChar (c : Char) : List Char :=
  if isUrlChar c then [c] else (String.utf8EncodeChar c).flatMap percentByte

def percentEncode (cs : List Char) : List Char := cs.flatMap percentChar

example : percentEncode "b c".toList = "b%20c".toList := by decide +kernel

end Vitae.Text
