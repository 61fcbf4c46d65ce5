/-!
# Prefix codes

A text written character by character can be read again if no character's image is the beginning of
another's. The characters that are not their own images are listed, so that a reader has finitely
many images to look for; whatever stands between them stands for itself.
-/

namespace Vitae.Text

/-- Texts are written in one pass and can be read again. Only the listed characters change, and no
character's image is the beginning of another's. -/
structure IsUniquelyDecodable (write : List Char → List Char)
    (read : List Char → Option (List Char)) (changed : List Char) : Prop where
  append : ∀ a b, write (a ++ b) = write a ++ write b
  singleton_eq_iff : ∀ c, write [c] = [c] ↔ c ∉ changed
  read_eq_some_iff : ∀ cs s, read cs = some s ↔ cs = write s
  injective : Function.Injective write
  prefixFree : ∀ c d, write [c] <+: write [d] → c = d
  prefix_or_prefix : ∀ a b after rest, write a ++ after = write b ++ rest → a <+: b ∨ b <+: a

/-- An image for every character. All but the listed ones are their own images. -/
structure PrefixCode where
  image : Char → List Char
  changed : List Char
  image_eq_iff : ∀ c, image c = [c] ↔ c ∉ changed
  prefixFree : ∀ c d, image c <+: image d → c = d

namespace PrefixCode

/-! ### Images -/

/-- Do all images of the listed characters begin with a listed one, and is none of them the
beginning of another? -/
def isMarked (image : Char → List Char) (changed : List Char) (mark : Char) : Bool :=
  changed.contains mark && changed.all fun c =>
    (image c).head? == some mark && changed.all fun d => c == d || !(image c).isPrefixOf (image d)

/-- A mark is found at the beginning of no other image, so that only the images of the listed
characters have to be compared with one another. -/
theorem prefixFree_of_isMarked {image : Char → List Char} {changed : List Char} {mark : Char}
    (hplain : ∀ c, image c = [c] ↔ c ∉ changed) (hmarked : isMarked image changed mark = true)
    (c d : Char) (h : image c <+: image d) : c = d := by
  simp only [isMarked, Bool.and_eq_true, List.contains_iff_mem, List.all_eq_true, beq_iff_eq,
    Bool.or_eq_true, Bool.not_eq_true'] at hmarked
  obtain ⟨hmark, hall⟩ := hmarked
  have hcons (e : Char) (he : e ∈ changed) : ∃ rest, image e = mark :: rest :=
    List.head?_eq_some_iff.1 (hall e he).1
  by_cases hc : c ∈ changed
  · by_cases hd : d ∈ changed
    · rcases (hall c hc).2 d hd with heq | hnot
      · exact heq
      · rw [List.isPrefixOf_iff_prefix.2 h] at hnot
        exact absurd hnot (by decide)
    · obtain ⟨rest, hrest⟩ := hcons c hc
      rw [hrest, (hplain d).2 hd, List.cons_prefix_cons] at h
      exact absurd (h.1 ▸ hmark) hd
  · rw [(hplain c).2 hc] at h
    by_cases hd : d ∈ changed
    · obtain ⟨rest, hrest⟩ := hcons d hd
      rw [hrest, List.cons_prefix_cons] at h
      exact absurd (h.1 ▸ hmark) hc
    · rw [(hplain d).2 hd, List.cons_prefix_cons] at h
      exact h.1

variable (code : PrefixCode)

theorem image_ne_nil (c : Char) : code.image c ≠ [] := by
  intro hnil
  have hall (d : Char) : c = d := by
    apply code.prefixFree
    rw [hnil]
    exact List.nil_prefix
  exact absurd ((hall 'a').symm.trans (hall 'b')) (by decide)

variable {code} in
/-- What begins with two images begins with one. -/
theorem eq_of_images {c d : Char} {cs : List Char} (hc : code.image c <+: cs)
    (hd : code.image d <+: cs) : c = d := by
  rcases List.prefix_or_prefix_of_prefix hc hd with h | h
  · exact code.prefixFree c d h
  · exact (code.prefixFree d c h).symm

/-! ### Texts -/

def encode (cs : List Char) : List Char := cs.flatMap code.image

theorem encode_cons (c : Char) (cs : List Char) :
    code.encode (c :: cs) = code.image c ++ code.encode cs := List.flatMap_cons

theorem encode_append (a b : List Char) :
    code.encode (a ++ b) = code.encode a ++ code.encode b := List.flatMap_append

theorem encode_singleton (c : Char) : code.encode [c] = code.image c := by
  rw [encode_cons, encode, List.flatMap_nil, List.append_nil]

variable {code} in
/-- Of two texts that are written at the beginning of one text the shorter begins the longer. -/
theorem prefix_or_prefix {as bs after rest : List Char}
    (h : code.encode as ++ after = code.encode bs ++ rest) : as <+: bs ∨ bs <+: as := by
  induction as generalizing bs with
  | nil => exact Or.inl List.nil_prefix
  | cons a as ih =>
    cases bs with
    | nil => exact Or.inr List.nil_prefix
    | cons b bs =>
      rw [encode_cons, encode_cons, List.append_assoc, List.append_assoc] at h
      have ha : code.image a <+: code.image b ++ (code.encode bs ++ rest) := ⟨_, h⟩
      obtain rfl := eq_of_images ha (List.prefix_append ..)
      have hmore := ih (List.append_cancel_left h)
      rw [List.cons_prefix_cons, List.cons_prefix_cons]
      exact hmore.imp (⟨rfl, ·⟩) (⟨rfl, ·⟩)

/-! ### Reading -/

/-- The listed character whose image a text begins with. -/
def find? (cs : List Char) : Option Char :=
  code.changed.find? fun c => (code.image c).isPrefixOf cs

theorem find?_eq_some_iff {cs : List Char} {c : Char} :
    code.find? cs = some c ↔ c ∈ code.changed ∧ code.image c <+: cs := by
  have hbegins {d : Char} (hd : code.find? cs = some d) : code.image d <+: cs := by
    unfold find? at hd
    have htest := List.find?_some hd
    exact List.isPrefixOf_iff_prefix.1 htest
  constructor
  · intro h
    exact ⟨List.mem_of_find?_eq_some h, hbegins h⟩
  · rintro ⟨hmem, hc⟩
    have hfound : (code.find? cs).isSome = true :=
      List.find?_isSome.2 ⟨c, hmem, List.isPrefixOf_iff_prefix.2 hc⟩
    obtain ⟨d, hd⟩ := Option.isSome_iff_exists.1 hfound
    rw [hd, eq_of_images (hbegins hd) hc]

/-- Reads a text of which the first `skip` characters belong to an image already read. A listed
character that begins no image is not read. -/
def decodeFrom : Nat → List Char → Option (List Char)
  | _, [] => some []
  | skip + 1, _ :: cs => decodeFrom skip cs
  | 0, c :: cs =>
    match code.find? (c :: cs) with
    | some d => (decodeFrom ((code.image d).length - 1) cs).map (d :: ·)
    | none => if c ∈ code.changed then none else (decodeFrom 0 cs).map (c :: ·)

def decode (cs : List Char) : Option (List Char) := code.decodeFrom 0 cs

theorem decodeFrom_length (skipped cs : List Char) :
    code.decodeFrom skipped.length (skipped ++ cs) = code.decodeFrom 0 cs := by
  induction skipped with
  | nil => rfl
  | cons c rest ih => rw [List.length_cons, List.cons_append, decodeFrom, ih]

theorem decodeFrom_image (c : Char) (cs : List Char) :
    code.decodeFrom 0 (code.image c ++ cs) = (code.decodeFrom 0 cs).map (c :: ·) := by
  by_cases hc : c ∈ code.changed
  · have hfound := code.find?_eq_some_iff.2 ⟨hc, List.prefix_append (code.image c) cs⟩
    obtain ⟨first, rest, himage⟩ := List.exists_cons_of_ne_nil (code.image_ne_nil c)
    rw [himage, List.cons_append] at hfound ⊢
    rw [decodeFrom, hfound]
    dsimp only
    rw [himage, List.length_cons, Nat.add_sub_cancel, decodeFrom_length]
  · have hnone : code.find? (c :: cs) = none := by
      rw [Option.eq_none_iff_forall_ne_some]
      intro d hd
      obtain ⟨hmem, hbegins⟩ := code.find?_eq_some_iff.1 hd
      have hplain : code.image c <+: c :: cs := by
        rw [(code.image_eq_iff c).2 hc]
        exact ⟨cs, rfl⟩
      exact hc (eq_of_images hbegins hplain ▸ hmem)
    rw [(code.image_eq_iff c).2 hc, List.singleton_append, decodeFrom, hnone]
    dsimp only
    rw [if_neg hc]

theorem decode_encode (cs : List Char) : code.decode (code.encode cs) = some cs := by
  unfold decode
  induction cs with
  | nil => rfl
  | cons c cs ih => rw [encode_cons, decodeFrom_image, ih, Option.map_some]

/-- What is read of a text is written as the text, but for what was to be skipped. -/
theorem drop_eq_encode_of_decodeFrom {skip : Nat} {cs s : List Char}
    (h : code.decodeFrom skip cs = some s) : cs.drop skip = code.encode s := by
  -- By the steps of the reader: an image that is found is the first character with what is skipped
  -- behind it, so that the induction hypothesis speaks of the text behind the image.
  fun_induction decodeFrom code skip cs generalizing s with
  | case1 skip =>
    obtain rfl := Option.some.inj h
    rw [List.drop_nil]
    rfl
  | case2 skip c cs ih => exact ih h
  | case3 c cs d hd ih =>
    obtain ⟨rest, hrest, rfl⟩ := Option.map_eq_some_iff.1 h
    obtain ⟨-, after, hafter⟩ := code.find?_eq_some_iff.1 hd
    obtain ⟨first, others, himage⟩ := List.exists_cons_of_ne_nil (code.image_ne_nil d)
    have hread := ih hrest
    rw [himage, List.cons_append, List.cons.injEq] at hafter
    rw [himage, List.length_cons, Nat.add_sub_cancel, ← hafter.2, List.drop_left] at hread
    rw [List.drop_zero, encode_cons, himage, List.cons_append, ← hread, hafter.1, hafter.2]
  | case4 c cs hnone hc => exact absurd h nofun
  | case5 c cs hnone hc ih =>
    obtain ⟨rest, hrest, rfl⟩ := Option.map_eq_some_iff.1 h
    rw [List.drop_zero, encode_cons, (code.image_eq_iff c).2 hc, List.singleton_append]
    exact congrArg _ (ih hrest)

theorem decode_eq_some_iff {cs s : List Char} : code.decode cs = some s ↔ cs = code.encode s := by
  constructor
  · exact code.drop_eq_encode_of_decodeFrom
  · rintro rfl
    exact code.decode_encode s

theorem encode_injective : Function.Injective code.encode := by
  intro as bs h
  have has := code.decode_encode as
  rw [h, code.decode_encode bs] at has
  exact (Option.some.inj has).symm

theorem isUniquelyDecodable : IsUniquelyDecodable code.encode code.decode code.changed where
  append := code.encode_append
  singleton_eq_iff c := by rw [encode_singleton, code.image_eq_iff]
  read_eq_some_iff _ _ := code.decode_eq_some_iff
  injective := code.encode_injective
  prefixFree c d h := by
    rw [encode_singleton, encode_singleton] at h
    exact code.prefixFree c d h
  prefix_or_prefix _ _ _ _ := prefix_or_prefix

end PrefixCode

end Vitae.Text
