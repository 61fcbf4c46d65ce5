import Vitae.Json.Reader
import Vitae.Json.Writer

/-!
# Reading back strings and integers

What the writer makes of a string or an integer is read back as that value, whatever text follows
it, as long as that text does not go on with the integer.
-/

namespace Vitae.Json

variable {half : Char}

/-! ### Strings -/

theorem hexNumber_hexDigits_control : ∀ n, n < 0x20 →
    Text.hexNumber 0 (Text.hexDigits n 4) = some n := by
  decide

theorem readUnits_control (opening rest : List Char) (n : Nat) (hn : n < 0x20) (f : Char) :
    readUnits opening ('\\' :: 'u' :: (Text.hexDigits n 4 ++ f :: rest)) =
      consUnit n (readUnits opening (f :: rest)) := by
  have hnum := hexNumber_hexDigits_control n hn
  have hlen := Text.length_hexDigits n 4
  match hd : Text.hexDigits n 4, hlen with
  | [a, b, d, e], _ =>
    rw [hd] at hnum
    simp only [List.cons_append, List.nil_append, readUnits]
    simp [hnum]

theorem readUnits_cons {c : Char} (opening cs : List Char) (hquote : c ≠ '"') (hslash : c ≠ '\\')
    (hcontrol : ¬c.toNat < 0x20) :
    readUnits opening (c :: cs) = consUnit c.toNat (readUnits opening cs) := by
  rw [readUnits.eq_def]
  simp only [hquote, hslash, hcontrol, if_false]

theorem readUnits_quote (opening rest : List Char) :
    readUnits opening ('"' :: rest) = .ok ([], rest) := by
  rw [readUnits.eq_def]
  simp only [if_true]

theorem readUnits_writeChar (opening : List Char) (c f : Char) (rest : List Char) :
    readUnits opening (writeChar c ++ f :: rest) =
      consUnit c.toNat (readUnits opening (f :: rest)) := by
  by_cases hescaped : c = '"' ∨ c = '\\' ∨ c = '\n' ∨ c = '\r' ∨ c = '\t' ∨ c = '\x0c' ∨ c = '\x08'
  · rcases hescaped with rfl | rfl | rfl | rfl | rfl | rfl | rfl <;>
      simp [writeChar, readUnits, escapeChar?]
  · simp only [not_or] at hescaped
    obtain ⟨hquote, hslash, hn, hr, ht, hf, hb⟩ := hescaped
    by_cases hcontrol : c.toNat < 0x20
    · simp only [writeChar, hquote, hslash, hn, hr, ht, hf, hb, hcontrol, if_false, if_true,
        List.cons_append]
      exact readUnits_control opening rest c.toNat hcontrol f
    · simp only [writeChar, hquote, hslash, hn, hr, ht, hf, hb, hcontrol, if_false,
        List.singleton_append]
      exact readUnits_cons opening (f :: rest) hquote hslash hcontrol

theorem readUnits_flatMap (opening cs rest : List Char) :
    readUnits opening (cs.flatMap writeChar ++ '"' :: rest) = .ok (cs.map Char.toNat, rest) := by
  induction cs with
  | nil => exact readUnits_quote opening rest
  | cons c cs ih =>
    -- The text after one character is never empty: the closing quote is still to come.
    have hnext : ∃ f tail, cs.flatMap writeChar ++ '"' :: rest = f :: tail :=
      List.exists_cons_of_ne_nil (by simp)
    obtain ⟨f, tail, hnext⟩ := hnext
    rw [List.flatMap_cons, List.append_assoc, hnext, readUnits_writeChar, ← hnext, ih]
    rfl

theorem unitChar_toNat (c : Char) : unitChar half c.toNat = c := by
  have hvalid : c.toNat.isValidChar := c.valid
  simp [unitChar, hvalid]

/-- Code points of characters are never halves of a pair. -/
theorem joinUnits_map_toNat (cs : List Char) : joinUnits half (cs.map Char.toNat) = cs := by
  induction cs with
  | nil => rfl
  | cons c cs ih =>
    cases cs with
    | nil => simp [joinUnits, unitChar_toNat]
    | cons d cs =>
      have hvalid : c.toNat.isValidChar := c.valid
      have hpair : ¬(0xD800 ≤ c.toNat ∧ c.toNat < 0xDC00 ∧ 0xDC00 ≤ d.toNat ∧ d.toNat < 0xE000) := by
        rcases hvalid with hlow | ⟨hhigh, _⟩ <;> omega
      simp only [List.map_cons] at ih ⊢
      rw [joinUnits, if_neg hpair, ih, unitChar_toNat]

/-- A written string is read back. -/
theorem readString_writeString (half : Char) (opening rest : List Char) (s : String) :
    readString half opening (s.toList.flatMap writeChar ++ '"' :: rest) = .ok (s.toList, rest) := by
  rw [readString, readUnits_flatMap]
  simp [Except.map, joinUnits_map_toNat]

/-! ### Integers -/

/-- Does the text not go on with a number that stands before it? -/
def EndsNumber (rest : List Char) : Prop :=
  ∀ c ∈ rest.head?, isDigit c = false ∧ c ≠ '.' ∧ c ≠ 'e' ∧ c ≠ 'E'

theorem endsNumber_nil : EndsNumber [] := by
  intro c hc
  simp at hc

theorem endsNumber_cons {c : Char} (rest : List Char)
    (h : isDigit c = false ∧ c ≠ '.' ∧ c ≠ 'e' ∧ c ≠ 'E') : EndsNumber (c :: rest) := by
  intro d hd
  simp only [List.head?_cons, Option.mem_def, Option.some.injEq] at hd
  exact hd ▸ h

theorem readFraction_eq_none {rest : List Char} (h : EndsNumber rest) :
    readFraction rest = none := by
  match rest with
  | [] => rfl
  | c :: cs =>
    have hc := h c (by simp)
    unfold readFraction
    split
    · rename_i heq
      simp only [List.cons.injEq] at heq
      exact absurd heq.1 hc.2.1
    · rfl

theorem readExponent_eq_none {rest : List Char} (h : EndsNumber rest) :
    readExponent rest = none := by
  match rest with
  | [] => rfl
  | c :: cs =>
    have hc := h c (by simp)
    simp [readExponent, hc.2.2.1, hc.2.2.2]

theorem isDigit_of_mem_toDigits {n : Nat} {c : Char} (hc : c ∈ Nat.toDigits 10 n) :
    isDigit c = true := by
  have h := Nat.isDigit_of_mem_toDigits (by decide : 0 < 10) (by decide : 10 ≤ 10) hc
  simpa [isDigit, Char.isDigit, Char.le_def] using h

theorem digitChar_ne_zero : ∀ d, d < 10 → 0 < d → d.digitChar ≠ '0' := by
  decide

theorem head?_toDigits_ne_zero {n : Nat} (hn : 0 < n) : (Nat.toDigits 10 n).head? ≠ some '0' := by
  induction n using Nat.strongRecOn with
  | _ n ih =>
    by_cases hsmall : n < 10
    · rw [Nat.toDigits_of_lt_base hsmall]
      simpa using digitChar_ne_zero n hsmall hn
    · rw [Nat.toDigits_of_base_le (by decide) (by omega)]
      have htail := ih (n / 10) (by omega) (by omega)
      cases hd : Nat.toDigits 10 (n / 10) with
      | nil => exact absurd hd Nat.toDigits_ne_nil
      | cons d ds =>
        rw [hd] at htail
        simpa using htail

theorem digitsValue_toDigits (n : Nat) : digitsValue (Nat.toDigits 10 n) = n :=
  Nat.ofDigitChars_ten_toDigits

theorem takeWhile_toDigits {rest : List Char} (n : Nat) (h : EndsNumber rest) :
    (Nat.toDigits 10 n ++ rest).takeWhile isDigit = Nat.toDigits 10 n := by
  rw [List.takeWhile_append_of_pos fun c hc => isDigit_of_mem_toDigits hc]
  have hrest : rest.takeWhile isDigit = [] := by
    match rest with
    | [] => rfl
    | c :: cs => simp [(h c (by simp)).1]
  rw [hrest, List.append_nil]

theorem wholePart_toDigits {rest : List Char} (n : Nat) (h : EndsNumber rest) :
    wholePart (Nat.toDigits 10 n ++ rest) = Nat.toDigits 10 n := by
  by_cases hzero : n = 0
  · subst hzero
    rfl
  · have hhead := head?_toDigits_ne_zero (Nat.pos_of_ne_zero hzero)
    have htake := takeWhile_toDigits n h
    unfold wholePart
    split
    · rename_i heq
      cases hd : Nat.toDigits 10 n with
      | nil => exact absurd hd Nat.toDigits_ne_nil
      | cons d ds =>
        rw [hd] at heq hhead
        simp only [List.cons_append, List.cons.injEq] at heq
        simp [heq.1] at hhead
    · exact htake

theorem readUnsigned_toDigits {rest : List Char} (negative : Bool) (n : Nat) (h : EndsNumber rest)
    (hn : (Nat.toDigits 10 n).length ≤ digitLimit) :
    readUnsigned negative (Nat.toDigits 10 n ++ rest) =
      some (.ok (.int (if negative then -(n : Int) else n)), rest) := by
  have hne : (Nat.toDigits 10 n).isEmpty = false := by
    simp [Nat.toDigits_ne_nil]
  unfold readUnsigned
  simp only [wholePart_toDigits n h, hne, List.drop_left, readFraction_eq_none h,
    digitsValue_toDigits, Option.map_none, Option.getD_none, readExponent_eq_none h]
  simp [Nat.not_lt.2 hn]

theorem ne_of_isDigit {d c : Char} (hd : isDigit d = true) (hc : isDigit c = false) : d ≠ c := by
  rintro rfl
  rw [hd] at hc
  exact Bool.noConfusion hc

theorem readAtom_unsigned {d : Char} {ds rest : List Char} {n : Int} (hd : isDigit d = true)
    (h : readUnsigned false (d :: ds) = some (.ok (.int n), rest)) :
    readAtom (d :: ds) = .ok (.int n, rest) := by
  have hn := ne_of_isDigit hd (show isDigit 'n' = false by decide)
  have ht := ne_of_isDigit hd (show isDigit 't' = false by decide)
  have hf := ne_of_isDigit hd (show isDigit 'f' = false by decide)
  have hN := ne_of_isDigit hd (show isDigit 'N' = false by decide)
  have hI := ne_of_isDigit hd (show isDigit 'I' = false by decide)
  have hsign := ne_of_isDigit hd (show isDigit '-' = false by decide)
  simp [readAtom, dropWord?, hn.symm, ht.symm, hf.symm, hN.symm, hI.symm, hsign.symm, hsign, h,
    Except.map]

theorem readAtom_signed {d : Char} {ds rest : List Char} {n : Int} (hd : isDigit d = true)
    (h : readUnsigned true (d :: ds) = some (.ok (.int n), rest)) :
    readAtom ('-' :: d :: ds) = .ok (.int n, rest) := by
  have hI := ne_of_isDigit hd (show isDigit 'I' = false by decide)
  simp [readAtom, dropWord?, hI.symm, h, Except.map]

def intDigits (n : Int) : Nat := (Nat.toDigits 10 n.natAbs).length

/-- An integer of not too many digits is read back. -/
theorem readAtom_intText {rest : List Char} (n : Int) (h : EndsNumber rest)
    (hn : intDigits n ≤ digitLimit) : readAtom (intText n ++ rest) = .ok (.int n, rest) := by
  have hread := fun negative => readUnsigned_toDigits negative n.natAbs h hn
  cases hd : Nat.toDigits 10 n.natAbs with
  | nil => exact absurd hd Nat.toDigits_ne_nil
  | cons d ds =>
    have hdigit : isDigit d = true :=
      isDigit_of_mem_toDigits (n := n.natAbs) (hd ▸ List.mem_cons_self ..)
    simp only [hd, List.cons_append] at hread
    by_cases hsign : n < 0
    · have hvalue : -(n.natAbs : Int) = n := by omega
      simp only [intText, hsign, if_true, hd, List.cons_append]
      exact readAtom_signed hdigit (by rw [hread true, if_pos rfl, hvalue])
    · have hvalue : (n.natAbs : Int) = n := by omega
      simp only [intText, hsign, if_false, hd, List.cons_append]
      exact readAtom_unsigned hdigit (by rw [hread false, if_neg (by decide), hvalue])

end Vitae.Json
