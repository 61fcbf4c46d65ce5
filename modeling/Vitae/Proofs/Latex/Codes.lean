import Vitae.Latex
import Vitae.Proofs.Text.PrefixCode

/-!
# Escapes as codes

Both escapes can be undone, also for texts that look like escaped ones already: every image of a
changed character begins with a backslash, a backslash is changed itself, and no image is the
beginning of another.
-/

namespace Vitae.Latex

open Text (PrefixCode IsUniquelyDecodable)

/-! ### Text -/

def changedInText : List Char := ['\\', '~', '^', '\x7b', '\x7d', '$', '%', '&', '#', '_']

theorem escapeChar_eq_iff (c : Char) : escapeChar c = [c] ↔ c ∉ changedInText := by
  unfold escapeChar
  split
  · decide
  · decide
  · decide
  · rename_i hslash htilde hcaret
    have hmem : c ∈ changedInText ↔
        c = '\x7b' ∨ c = '\x7d' ∨ c = '$' ∨ c = '%' ∨ c = '&' ∨ c = '#' ∨ c = '_' := by
      simp only [changedInText, List.mem_cons, List.not_mem_nil, or_false]
      exact ⟨fun h => ((h.resolve_left hslash).resolve_left htilde).resolve_left hcaret,
        fun h => Or.inr (Or.inr (Or.inr h))⟩
    rw [hmem]
    split
    · rename_i hchanged
      simp [hchanged]
    · rename_i hplain
      simp [hplain]

theorem isMarked_escapeChar : PrefixCode.isMarked escapeChar changedInText '\\' = true := by decide

def textCode : PrefixCode where
  image := escapeChar
  changed := changedInText
  image_eq_iff := escapeChar_eq_iff
  prefixFree := PrefixCode.prefixFree_of_isMarked escapeChar_eq_iff isMarked_escapeChar

/-- Reads an escaped text. -/
def unescape (cs : List Char) : Option (List Char) := textCode.decode cs

/-! ### Destinations of links -/

def changedInUrl : List Char := ['\\', '#', '%', '\x7b', '\x7d']

theorem escapeUrlChar_eq_iff (c : Char) : escapeUrlChar c = [c] ↔ c ∉ changedInUrl := by
  simp [escapeUrlChar, changedInUrl]

theorem isMarked_escapeUrlChar :
    PrefixCode.isMarked escapeUrlChar changedInUrl '\\' = true := by decide

def urlCode : PrefixCode where
  image := escapeUrlChar
  changed := changedInUrl
  image_eq_iff := escapeUrlChar_eq_iff
  prefixFree := PrefixCode.prefixFree_of_isMarked escapeUrlChar_eq_iff isMarked_escapeUrlChar

/-- Reads an escaped destination. -/
def unescapeUrl (cs : List Char) : Option (List Char) := urlCode.decode cs

/-- Whatever is escaped can be read again, as a text and as a destination. -/
theorem isUniquelyDecodable_escapes :
    IsUniquelyDecodable escape unescape changedInText ∧
      IsUniquelyDecodable escapeUrl unescapeUrl changedInUrl :=
  ⟨textCode.isUniquelyDecodable, urlCode.isUniquelyDecodable⟩

end Vitae.Latex
