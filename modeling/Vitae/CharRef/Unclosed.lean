/-!
# Reference names without semicolon

The names that are understood also where no semicolon follows, and the code points they stand for.
-/

namespace Vitae.CharRef

def unclosedNames : List (String × List Nat) :=
  [("AElig", [0xC6]), ("AMP", [0x26]), ("Aacute", [0xC1]), ("Acirc", [0xC2]), ("Agrave", [0xC0]),
   ("Aring", [0xC5]), ("Atilde", [0xC3]), ("Auml", [0xC4]), ("COPY", [0xA9]), ("Ccedil", [0xC7]),
   ("ETH", [0xD0]), ("Eacute", [0xC9]), ("Ecirc", [0xCA]), ("Egrave", [0xC8]), ("Euml", [0xCB]),
   ("GT", [0x3E]), ("Iacute", [0xCD]), ("Icirc", [0xCE]), ("Igrave", [0xCC]), ("Iuml", [0xCF]),
   ("LT", [0x3C]), ("Ntilde", [0xD1]), ("Oacute", [0xD3]), ("Ocirc", [0xD4]), ("Ograve", [0xD2]),
   ("Oslash", [0xD8]), ("Otilde", [0xD5]), ("Ouml", [0xD6]), ("QUOT", [0x22]), ("REG", [0xAE]),
   ("THORN", [0xDE]), ("Uacute", [0xDA]), ("Ucirc", [0xDB]), ("Ugrave", [0xD9]), ("Uuml", [0xDC]),
   ("Yacute", [0xDD]), ("aacute", [0xE1]), ("acirc", [0xE2]), ("acute", [0xB4]),
   ("aelig", [0xE6]), ("agrave", [0xE0]), ("amp", [0x26]), ("aring", [0xE5]), ("atilde", [0xE3]),
   ("auml", [0xE4]), ("brvbar", [0xA6]), ("ccedil", [0xE7]), ("cedil", [0xB8]), ("cent", [0xA2]),
   ("copy", [0xA9]), ("curren", [0xA4]), ("deg", [0xB0]), ("divide", [0xF7]), ("eacute", [0xE9]),
   ("ecirc", [0xEA]), ("egrave", [0xE8]), ("eth", [0xF0]), ("euml", [0xEB]), ("frac12", [0xBD]),
   ("frac14", [0xBC]), ("frac34", [0xBE]), ("gt", [0x3E]), ("iacute", [0xED]), ("icirc", [0xEE]),
   ("iexcl", [0xA1]), ("igrave", [0xEC]), ("iquest", [0xBF]), ("iuml", [0xEF]), ("laquo", [0xAB]),
   ("lt", [0x3C]), ("macr", [0xAF]), ("micro", [0xB5]), ("middot", [0xB7]), ("nbsp", [0xA0]),
   ("not", [0xAC]), ("ntilde", [0xF1]), ("oacute", [0xF3]), ("ocirc", [0xF4]), ("ograve", [0xF2]),
   ("ordf", [0xAA]), ("ordm", [0xBA]), ("oslash", [0xF8]), ("otilde", [0xF5]), ("ouml", [0xF6]),
   ("para", [0xB6]), ("plusmn", [0xB1]), ("pound", [0xA3]), ("quot", [0x22]), ("raquo", [0xBB]),
   ("reg", [0xAE]), ("sect", [0xA7]), ("shy", [0xAD]), ("sup1", [0xB9]), ("sup2", [0xB2]),
   ("sup3", [0xB3]), ("szlig", [0xDF]), ("thorn", [0xFE]), ("times", [0xD7]), ("uacute", [0xFA]),
   ("ucirc", [0xFB]), ("ugrave", [0xF9]), ("uml", [0xA8]), ("uuml", [0xFC]), ("yacute", [0xFD]),
   ("yen", [0xA5]), ("yuml", [0xFF])]

end Vitae.CharRef
