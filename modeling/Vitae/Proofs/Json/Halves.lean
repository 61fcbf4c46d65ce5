import Vitae.Proofs.Json.RoundTrip
import Vitae.Proofs.Results

/-!
# Halves of surrogate pairs in JSON

A string has half a surrogate pair on its own only by a four-digit escape that starts with the digit
D. A text without such escapes is read alike whatever stands for a half, as is what the writer makes
of a value.
-/

namespace Vitae.Json

/-- A text none of whose strings has half a surrogate pair in it: what is read of it does not depend
on what stands for one. -/
def HasNoHalf (text : String) : Prop := ∀ half, read text half = read text

theorem hasNoHalf_write {layout : Layout} (hlayout : layout.IsBlank) {v : Json} (hv : v.Exact)
    (hd : v.depth ≤ depthLimit) : HasNoHalf (write layout v) := by
  intro half
  rw [read_write hlayout hv hd, read_write hlayout hv hd]

/-! ### Escapes -/

theorem hexValue?_lt {c : Char} {v : Nat} (h : Text.hexValue? c = some v) : v < 16 := by
  have hle : ∀ a b : Char, a ≤ b ↔ a.toNat ≤ b.toNat := fun _ _ => Iff.rfl
  simp only [Text.hexValue?, hle, Char.reduceToNat] at h
  split at h
  · cases h
    omega
  · split at h
    · cases h
      omega
    · split at h
      · cases h
        omega
      · cases h

theorem hexValue?_eq_thirteen {c : Char} (h : Text.hexValue? c = some 13) : c = 'd' ∨ c = 'D' := by
  have hle : ∀ a b : Char, a ≤ b ↔ a.toNat ≤ b.toNat := fun _ _ => Iff.rfl
  have hcode : c.toNat = 'd'.toNat ∨ c.toNat = 'D'.toNat := by
    simp only [Text.hexValue?, hle, Char.reduceToNat] at h ⊢
    grind
  exact hcode.imp Char.toNat_inj.1 Char.toNat_inj.1

/-- Four digits that do not start with D write the code point of a character. -/
theorem isValidChar_of_hexNumber {a b d e : Char} {n : Nat} (ha : a ≠ 'd' ∧ a ≠ 'D')
    (h : Text.hexNumber 0 [a, b, d, e] = some n) : n.isValidChar := by
  simp only [Text.hexNumber, Option.bind_eq_some_iff] at h
  obtain ⟨va, hva, vb, hvb, vd, hvd, ve, hve, hn⟩ := h
  have hne : va ≠ 13 := by
    rintro rfl
    rcases hexValue?_eq_thirteen hva with hd | hd
    · exact ha.1 hd
    · exact ha.2 hd
  have hla := hexValue?_lt hva
  have hlb := hexValue?_lt hvb
  have hld := hexValue?_lt hvd
  have hle := hexValue?_lt hve
  cases hn
  unfold Nat.isValidChar
  omega

/-- No backslash is followed by the letter of a four-digit escape and the digit D. -/
def NamesNoHalf (cs : List Char) : Prop :=
  ∀ d rest, '\\' :: 'u' :: d :: rest <:+ cs → d ≠ 'd' ∧ d ≠ 'D'

theorem NamesNoHalf.of_suffix {cs rest : List Char} (h : NamesNoHalf cs) (hrest : rest <:+ cs) :
    NamesNoHalf rest := fun d more hmore => h d more (hmore.trans hrest)

/-! ### What is left of a text -/

/-- Two readings of a text come to the same, and what they leave is the end of the text. -/
structure Alike {α : Type} (cs : List Char) (x y : Except Stop (α × List Char)) : Prop where
  eq : x = y
  suffix : ∀ a rest, x = .ok (a, rest) → rest <:+ cs

theorem Alike.ok {α : Type} {cs rest : List Char} (a : α) (h : rest <:+ cs) :
    Alike cs (.ok (a, rest)) (.ok (a, rest)) := by
  refine ⟨rfl, ?_⟩
  rintro _ _ ⟨⟩
  exact h

theorem Alike.error {α : Type} {cs : List Char} (e : Stop) :
    Alike cs (.error e : Except Stop (α × List Char)) (.error e) := ⟨rfl, nofun⟩

theorem Alike.map {α β : Type} {cs tail : List Char} {x y : Except Stop (α × List Char)}
    (h : Alike tail x y) (htail : tail <:+ cs) (f : α → β) :
    Alike cs (x.map fun p => (f p.1, p.2)) (y.map fun p => (f p.1, p.2)) where
  eq := congrArg _ h.eq
  suffix b rest hb := by
    obtain ⟨⟨a, after⟩, ha, heq⟩ := map_eq_ok_iff.1 hb
    cases heq
    exact (h.suffix a _ ha).trans htail

theorem skipSpace_suffix (cs : List Char) : skipSpace cs <:+ cs := List.dropWhile_suffix _

theorem suffix_of_skipSpace {c : Char} {cs after : List Char} (h : skipSpace cs = c :: after) :
    after <:+ cs := by
  have hskip := skipSpace_suffix cs
  rw [h] at hskip
  exact (List.suffix_cons c after).trans hskip

theorem suffix_of_readFraction {cs digits rest : List Char}
    (h : readFraction cs = some (digits, rest)) : rest <:+ cs := by
  unfold readFraction at h
  split at h
  · rename_i c cs
    split at h
    · cases h
      exact (List.dropWhile_suffix _).trans (List.suffix_cons ..)
    · cases h
  · cases h

theorem suffix_of_digits {digits cs rest : List Char} {value power : Int} (hdigits : digits <:+ cs)
    (h : (if (digits.takeWhile isDigit).isEmpty then none
      else some (value, digits.dropWhile isDigit)) = some (power, rest)) : rest <:+ cs := by
  split at h
  · cases h
  · cases h
    exact (List.dropWhile_suffix _).trans hdigits

theorem suffix_of_readExponent {cs rest : List Char} {power : Int}
    (h : readExponent cs = some (power, rest)) : rest <:+ cs := by
  unfold readExponent at h
  split at h
  · rename_i e cs
    have htail : cs <:+ e :: cs := List.suffix_cons e cs
    split at h
    · refine suffix_of_digits (List.IsSuffix.trans ?_ htail) h
      split
      · exact List.suffix_cons ..
      · exact List.suffix_cons ..
      · exact List.suffix_refl _
    · cases h
  · cases h

theorem suffix_of_getD {α : Type} {r? : Option (α × List Char)} {rest cs : List Char}
    (hrest : rest <:+ cs) (h : ∀ a after, r? = some (a, after) → after <:+ rest) :
    (r?.map (·.2)).getD rest <:+ cs := by
  cases r? with
  | none => exact hrest
  | some r => exact (h r.1 r.2 rfl).trans hrest

theorem suffix_of_readUnsigned {negative : Bool} {cs rest : List Char} {value : Except Stop Json}
    (h : readUnsigned negative cs = some (value, rest)) : rest <:+ cs := by
  have hwhole : cs.drop (wholePart cs).length <:+ cs := List.drop_suffix _ _
  have hfraction := suffix_of_getD hwhole fun _ _ => suffix_of_readFraction
  have hexponent := suffix_of_getD hfraction fun _ _ => suffix_of_readExponent
  unfold readUnsigned at h
  dsimp only at h
  split at h
  · cases h
  · split at h
    · split at h
      · cases h
        exact hexponent
      · cases h
        exact hexponent
    · cases h
      exact hexponent

theorem suffix_of_dropWord? {word cs rest : List Char} (h : dropWord? word cs = some rest) :
    rest <:+ cs := by
  unfold dropWord? at h
  split at h
  · cases h
    exact List.drop_suffix _ _
  · cases h

theorem suffix_of_readAtom {cs rest : List Char} {value : Json}
    (h : readAtom cs = .ok (value, rest)) : rest <:+ cs := by
  unfold readAtom at h
  dsimp only at h
  split at h
  · rename_i r hword
    cases h
    obtain ⟨w, -, hw⟩ := List.exists_of_findSome?_eq_some hword
    obtain ⟨after, hdrop, hafter⟩ := Option.map_eq_some_iff.1 hw
    cases hafter
    exact suffix_of_dropWord? hdrop
  · split at h
    · rename_i number rest' hnumber
      obtain ⟨v, -, hv⟩ := map_eq_ok_iff.1 h
      cases hv
      split at hnumber
      · exact (suffix_of_readUnsigned hnumber).trans (List.suffix_cons ..)
      · exact suffix_of_readUnsigned hnumber
    · cases h

/-! ### Strings -/

/-- The units that are read are code points of characters, and what they leave is the end of the
text. -/
def ReadsText (cs : List Char) (r : Except Stop (List Nat × List Char)) : Prop :=
  ∀ us rest, r = .ok (us, rest) → (∃ ds : List Char, us = ds.map Char.toNat) ∧ rest <:+ cs

theorem ReadsText.consUnit {cs tail : List Char} {r : Except Stop (List Nat × List Char)}
    (h : ReadsText tail r) (htail : tail <:+ cs) (c : Char) :
    ReadsText cs (Json.consUnit c.toNat r) := by
  intro us rest hread
  obtain ⟨⟨more, after⟩, hmore, heq⟩ := map_eq_ok_iff.1 hread
  cases heq
  obtain ⟨⟨ds, rfl⟩, hafter⟩ := h more _ hmore
  exact ⟨⟨c :: ds, rfl⟩, hafter.trans htail⟩

theorem readsText_readUnits (opening : List Char) {cs : List Char} (hnames : NamesNoHalf cs) :
    ReadsText cs (readUnits opening cs) := by
  fun_induction readUnits opening cs with
  | case2 cs =>
    rintro _ _ ⟨⟩
    exact ⟨⟨[], rfl⟩, List.suffix_cons ..⟩
  | case5 a b d e f tail n hn _ ih =>
    have htail : f :: tail <:+ '\\' :: 'u' :: a :: b :: d :: e :: f :: tail :=
      ⟨['\\', 'u', a, b, d, e], rfl⟩
    have hvalid := isValidChar_of_hexNumber (hnames a _ (List.suffix_refl _)) hn
    have hcode : (Char.ofNat n).toNat = n := by
      rw [Char.ofNat, dif_pos hvalid]
      rfl
    rw [← hcode]
    exact (ih (hnames.of_suffix htail)).consUnit htail _
  | case8 e tail _ _ c _ _ ih =>
    have htail : tail <:+ '\\' :: e :: tail := ⟨['\\', e], rfl⟩
    exact (ih (hnames.of_suffix htail)).consUnit htail c
  | case10 c tail _ _ _ ih =>
    have htail : tail <:+ c :: tail := List.suffix_cons ..
    exact (ih (hnames.of_suffix htail)).consUnit htail c
  | _ => exact nofun

theorem alike_readString {cs : List Char} (hnames : NamesNoHalf cs) (half half' : Char)
    (opening : List Char) : Alike cs (readString half opening cs) (readString half' opening cs) := by
  unfold readString
  cases hunits : readUnits opening cs with
  | error e => exact .error _
  | ok p =>
    obtain ⟨us, rest⟩ := p
    obtain ⟨⟨ds, rfl⟩, hrest⟩ := readsText_readUnits opening hnames us rest hunits
    simp only [Except.map, joinUnits_map_toNat]
    exact .ok _ hrest

/-! ### Values -/

section

variable {half half' : Char}

mutual

theorem alike_readValue : ∀ (fuel depth : Nat) {cs : List Char}, NamesNoHalf cs →
    Alike cs (readValue half fuel depth cs) (readValue half' fuel depth cs)
  | 0, _, _, _ => .error _
  | fuel + 1, depth, cs, hnames => by
    rw [readValue.eq_def half, readValue.eq_def half']
    dsimp only
    split
    · rename_i rest
      have hrest : rest <:+ '"' :: rest := List.suffix_cons ..
      have hstring := alike_readString (hnames.of_suffix hrest) half half' ('"' :: rest)
      exact hstring.map hrest fun s => str (String.ofList s)
    · rename_i rest
      have hrest : rest <:+ '[' :: rest := List.suffix_cons ..
      cases depth with
      | zero => exact .error _
      | succ depth =>
        have hbody : skipSpace rest <:+ '[' :: rest := (skipSpace_suffix _).trans hrest
        dsimp only
        split
        · rename_i hclose
          exact .ok _ ((suffix_of_skipSpace hclose).trans hrest)
        · exact (alike_readItems fuel depth (hnames.of_suffix hbody)).map hbody arr
    · rename_i rest
      have hrest : rest <:+ '\x7b' :: rest := List.suffix_cons ..
      cases depth with
      | zero => exact .error _
      | succ depth =>
        have hbody : skipSpace rest <:+ '\x7b' :: rest := (skipSpace_suffix _).trans hrest
        dsimp only
        split
        · rename_i hclose
          exact .ok _ ((suffix_of_skipSpace hclose).trans hrest)
        · have hmembers := alike_readMembers fuel depth (hnames.of_suffix hbody)
          exact hmembers.map hbody fun members => obj (collect members)
    · exact ⟨rfl, fun _ _ => suffix_of_readAtom⟩

theorem alike_readItems : ∀ (fuel depth : Nat) {cs : List Char}, NamesNoHalf cs →
    Alike cs (readItems half fuel depth cs) (readItems half' fuel depth cs)
  | 0, _, _, _ => .error _
  | fuel + 1, depth, cs, hnames => by
    have hvalue := alike_readValue fuel depth hnames
    rw [readItems, readItems, ← hvalue.eq]
    cases hread : readValue half fuel depth cs with
    | error e => exact .error _
    | ok p =>
      obtain ⟨item, rest⟩ := p
      have hrest := hvalue.suffix item rest hread
      dsimp only
      split
      · rename_i hclose
        exact .ok _ ((suffix_of_skipSpace hclose).trans hrest)
      · rename_i more hcomma
        have hmore : skipSpace more <:+ cs :=
          (skipSpace_suffix _).trans ((suffix_of_skipSpace hcomma).trans hrest)
        exact (alike_readItems fuel depth (hnames.of_suffix hmore)).map hmore (item :: ·)
      · exact .error _

theorem alike_readMembers : ∀ (fuel depth : Nat) {cs : List Char}, NamesNoHalf cs →
    Alike cs (readMembers half fuel depth cs) (readMembers half' fuel depth cs)
  | 0, _, _, _ => .error _
  | fuel + 1, depth, cs, hnames => by
    rw [readMembers.eq_def half, readMembers.eq_def half']
    dsimp only
    split
    · rename_i rest
      have hrest : rest <:+ '"' :: rest := List.suffix_cons ..
      have hname := alike_readString (hnames.of_suffix hrest) half half' ('"' :: rest)
      rw [← hname.eq]
      cases hread : readString half ('"' :: rest) rest with
      | error e => exact .error _
      | ok p =>
        obtain ⟨name, after⟩ := p
        have hafter := (hname.suffix name after hread).trans hrest
        dsimp only
        split
        · rename_i text hcolon
          have htext : skipSpace text <:+ '"' :: rest :=
            (skipSpace_suffix _).trans ((suffix_of_skipSpace hcolon).trans hafter)
          have hvalue := alike_readValue fuel depth (hnames.of_suffix htext)
          rw [← hvalue.eq]
          cases hreadValue : readValue half fuel depth (skipSpace text) with
          | error e => exact .error _
          | ok p =>
            obtain ⟨value, last⟩ := p
            have hlast := (hvalue.suffix value last hreadValue).trans htext
            dsimp only
            split
            · rename_i hclose
              exact .ok _ ((suffix_of_skipSpace hclose).trans hlast)
            · rename_i more hcomma
              have hmore : skipSpace more <:+ '"' :: rest :=
                (skipSpace_suffix _).trans ((suffix_of_skipSpace hcomma).trans hlast)
              have hmembers := alike_readMembers fuel depth (hnames.of_suffix hmore)
              exact hmembers.map hmore ((String.ofList name, value) :: ·)
            · exact .error _
        · exact .error _
    · exact .error _

end

end

/-! ### A whole text -/

theorem readText_eq_of_namesNoHalf {cs : List Char} (hnames : NamesNoHalf cs) (half half' : Char) :
    readText half cs = readText half' cs := by
  have hvalue := @alike_readValue half half' (2 * cs.length + 2) depthLimit _
    (hnames.of_suffix (skipSpace_suffix cs))
  rw [readText, readText, hvalue.eq]

/-- A text without escapes that start with D has no halves. -/
theorem hasNoHalf_of_namesNoHalf {text : String} (hnames : NamesNoHalf text.toList) :
    HasNoHalf text := by
  intro half
  rw [read, read, readText_eq_of_namesNoHalf hnames half standIn]

end Vitae.Json
