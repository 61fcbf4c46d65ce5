import Vitae.Proofs.Json.Values

/-!
# Reading after writing

The reader takes back what the writer made of a value and leaves what follows. `fuel` is spent
twice for every character at most, which the text's length allows for.
-/

namespace Vitae.Json

variable {half : Char}

/-! ### One value -/

theorem readAtom_null (layout : Layout) (level : Nat) (rest : List Char) :
    readAtom (writeValue layout level .null ++ rest) = .ok (.null, rest) := by
  simp [writeValue, readAtom, dropWord?]

theorem readAtom_bool (layout : Layout) (level : Nat) (b : Bool) (rest : List Char) :
    readAtom (writeValue layout level (.bool b) ++ rest) = .ok (.bool b, rest) := by
  cases b <;> simp [writeValue, readAtom, dropWord?]

theorem readValue_of_readAtom {fuel d : Nat} {v : Json} {c : Char} {text rest : List Char}
    (htext : text.head? = some c) (hc : c ≠ '"' ∧ c ≠ '[' ∧ c ≠ '\x7b')
    (h : readAtom (text ++ rest) = .ok (v, rest)) :
    readValue half (fuel + 1) d (text ++ rest) = .ok (v, rest) := by
  obtain ⟨cs, rfl⟩ := List.head?_eq_some_iff.1 htext
  rw [List.cons_append] at h ⊢
  rw [readValue_atom hc, h]

theorem head?_intText (n : Int) :
    ∃ c, (intText n).head? = some c ∧ c ≠ '"' ∧ c ≠ '[' ∧ c ≠ '\x7b' := by
  by_cases hsign : n < 0
  · exact ⟨'-', by simp only [intText, hsign, if_true, List.head?_cons], by decide, by decide,
      by decide⟩
  · cases hd : Nat.toDigits 10 n.natAbs with
    | nil => exact absurd hd Nat.toDigits_ne_nil
    | cons d ds =>
      have hdigit : isDigit d = true :=
        isDigit_of_mem_toDigits (n := n.natAbs) (hd ▸ List.mem_cons_self ..)
      exact ⟨d, by simp only [intText, hsign, if_false, hd, List.head?_cons],
        ne_of_isDigit hdigit (by decide), ne_of_isDigit hdigit (by decide),
        ne_of_isDigit hdigit (by decide)⟩

theorem readValue_str (fuel d : Nat) (s : String) (rest : List Char) :
    readValue half (fuel + 1) d (writeString s ++ rest) = .ok (.str s, rest) := by
  have h := readString_writeString half (writeString s ++ rest) rest s
  simp only [writeString, List.cons_append, List.append_assoc, List.nil_append] at h ⊢
  rw [readValue, h]
  simp [Except.map]

theorem readValue_arr {layout : Layout} (hlayout : layout.IsBlank) {level fuel d : Nat}
    {item : Json} {rest : List Json} {tail : List Char} (hitem : item.Exact)
    (h : readItems half fuel d (itemsText layout (level + 1) (item :: rest) ++
      (layout.break level ++ ']' :: tail)) = .ok (item :: rest, tail)) :
    readValue half (fuel + 1) (d + 1) (writeValue layout level (.arr (item :: rest)) ++ tail) =
      .ok (.arr (item :: rest), tail) := by
  obtain ⟨c, cs, hcs, hspace, hclose, _⟩ := writeValue_eq_cons layout (level + 1) hitem
  rw [writeValue_arr]
  simp only [List.cons_append, List.append_assoc, List.nil_append]
  simp only [itemsText, hcs, List.cons_append, List.append_assoc] at h ⊢
  rw [readValue, skipSpace_append _ (isSpace_of_mem_break hlayout _), skipSpace_cons _ hspace]
  split
  · rename_i heq
    exact absurd (List.cons.inj heq).1 hclose
  · rw [h]
    rfl

theorem readValue_obj {layout : Layout} (hlayout : layout.IsBlank) {level fuel d : Nat}
    {m : String × Json} {rest : List (String × Json)} {tail : List Char}
    (hmembers : ExactMembers (m :: rest))
    (h : readMembers half fuel d (membersText layout (level + 1) (m :: rest) ++
      (layout.break level ++ '\x7d' :: tail)) = .ok (m :: rest, tail)) :
    readValue half (fuel + 1) (d + 1) (writeValue layout level (.obj (m :: rest)) ++ tail) =
      .ok (.obj (m :: rest), tail) := by
  have hspace : isSpace '"' = false := by decide
  rw [writeValue_obj]
  simp only [List.cons_append, List.append_assoc, List.nil_append]
  simp only [membersText, writeString, List.cons_append, List.append_assoc] at h ⊢
  rw [readValue, skipSpace_append _ (isSpace_of_mem_break hlayout _), skipSpace_cons _ hspace]
  split
  · rename_i heq
    exact absurd (List.cons.inj heq).1 (by decide)
  · rw [h]
    simp only [Except.map, collect_of_exact hmembers]

/-! ### Items and members -/

theorem readItems_last {fuel d : Nat} {cs rest tail : List Char} {item : Json}
    (hitem : readValue half fuel d cs = .ok (item, rest)) (hrest : skipSpace rest = ']' :: tail) :
    readItems half (fuel + 1) d cs = .ok ([item], tail) := by
  rw [readItems, hitem]
  simp only [hrest]

theorem readItems_more {fuel d : Nat} {cs rest more tail : List Char} {item : Json}
    {items : List Json} (hitem : readValue half fuel d cs = .ok (item, rest))
    (hrest : skipSpace rest = ',' :: more)
    (hitems : readItems half fuel d (skipSpace more) = .ok (items, tail)) :
    readItems half (fuel + 1) d cs = .ok (item :: items, tail) := by
  rw [readItems, hitem]
  simp only [hrest, hitems, Except.map]

theorem skipSpace_colon (text : List Char) :
    skipSpace (':' :: ' ' :: text) = ':' :: ' ' :: text :=
  skipSpace_cons _ (by decide)

theorem readString_member (name : String) (text : List Char) :
    ∃ cs, writeString name ++ (':' :: ' ' :: text) = '"' :: cs ∧
      readString half ('"' :: cs) cs = .ok (name.toList, ':' :: ' ' :: text) := by
  have hname := readString_writeString half (writeString name ++ (':' :: ' ' :: text))
    (':' :: ' ' :: text) name
  simp only [writeString, List.cons_append, List.append_assoc, List.nil_append] at hname ⊢
  exact ⟨_, rfl, hname⟩

theorem readMembers_last {fuel d : Nat} {name : String} {value : Json} {text rest tail : List Char}
    (hvalue : readValue half fuel d text = .ok (value, rest)) (hstart : skipSpace text = text)
    (hrest : skipSpace rest = '\x7d' :: tail) :
    readMembers half (fuel + 1) d (writeString name ++ (':' :: ' ' :: text)) =
      .ok ([(name, value)], tail) := by
  have hblank : skipSpace (' ' :: text) = text := hstart
  obtain ⟨cs, hcs, hname⟩ := readString_member name text
  rw [hcs, readMembers, hname]
  simp only [skipSpace_colon, hblank, hvalue, hrest, String.ofList_toList]

theorem readMembers_more {fuel d : Nat} {name : String} {value : Json}
    {text rest more tail : List Char} {members : List (String × Json)}
    (hvalue : readValue half fuel d text = .ok (value, rest)) (hstart : skipSpace text = text)
    (hrest : skipSpace rest = ',' :: more)
    (hmembers : readMembers half fuel d (skipSpace more) = .ok (members, tail)) :
    readMembers half (fuel + 1) d (writeString name ++ (':' :: ' ' :: text)) =
      .ok ((name, value) :: members, tail) := by
  have hblank : skipSpace (' ' :: text) = text := hstart
  obtain ⟨cs, hcs, hname⟩ := readString_member name text
  rw [hcs, readMembers, hname]
  simp only [skipSpace_colon, hblank, hvalue, hrest, hmembers, String.ofList_toList, Except.map]

/-! ### Every value -/

theorem skipSpace_writeValue (layout : Layout) (level : Nat) {v : Json} (hv : v.Exact)
    (rest : List Char) :
    skipSpace (writeValue layout level v ++ rest) = writeValue layout level v ++ rest := by
  obtain ⟨c, cs, hcs, hspace, _⟩ := writeValue_eq_cons layout level hv
  rw [hcs]
  exact skipSpace_cons _ hspace

theorem length_writeValue_pos (layout : Layout) (level : Nat) {v : Json} (hv : v.Exact) :
    0 < (writeValue layout level v).length := by
  obtain ⟨c, cs, hcs, _⟩ := writeValue_eq_cons layout level hv
  rw [hcs]
  simp

theorem skipSpace_writeItems {layout : Layout} (hlayout : layout.IsBlank) (level : Nat)
    (item : Json) (rest : List Json) (hitem : item.Exact) (tail : List Char) :
    ∃ more, skipSpace (writeItems layout level (item :: rest) ++ tail) = ',' :: more ∧
      skipSpace more = itemsText layout level (item :: rest) ++ tail := by
  obtain ⟨blanks, hbetween, hblanks⟩ := between_eq_cons hlayout level
  refine ⟨blanks ++ (itemsText layout level (item :: rest) ++ tail), ?_, ?_⟩
  · rw [writeItems_cons, hbetween]
    simp only [List.cons_append, List.append_assoc]
    exact skipSpace_cons _ (by decide)
  · rw [skipSpace_append _ hblanks, itemsText, List.append_assoc]
    exact skipSpace_writeValue layout level hitem _

theorem skipSpace_writeMembers {layout : Layout} (hlayout : layout.IsBlank) (level : Nat)
    (m : String × Json) (rest : List (String × Json)) (tail : List Char) :
    ∃ more, skipSpace (writeMembers layout level (m :: rest) ++ tail) = ',' :: more ∧
      skipSpace more = membersText layout level (m :: rest) ++ tail := by
  obtain ⟨blanks, hbetween, hblanks⟩ := between_eq_cons hlayout level
  refine ⟨blanks ++ (membersText layout level (m :: rest) ++ tail), ?_, ?_⟩
  · rw [writeMembers_cons, hbetween]
    simp only [List.cons_append, List.append_assoc]
    exact skipSpace_cons _ (by decide)
  · rw [skipSpace_append _ hblanks, membersText, writeString]
    exact skipSpace_cons _ (by decide)

mutual

/-- A written value is read back, and what follows it is left. -/
theorem readValue_writeValue {layout : Layout} (hlayout : layout.IsBlank) :
    (v : Json) → (level fuel d : Nat) → (rest : List Char) → v.Exact → v.depth ≤ d →
    2 * (writeValue layout level v).length ≤ fuel → EndsNumber rest →
    readValue half fuel d (writeValue layout level v ++ rest) = .ok (v, rest)
  | v, level, 0, d, rest, hv, _, hfuel, _ => by
    have hpos := length_writeValue_pos layout level hv
    omega
  | .null, level, fuel + 1, d, rest, _, _, _, _ =>
    readValue_of_readAtom (c := 'n') rfl (by decide) (readAtom_null layout level rest)
  | .bool true, level, fuel + 1, d, rest, _, _, _, _ =>
    readValue_of_readAtom (c := 't') rfl (by decide) (readAtom_bool layout level true rest)
  | .bool false, level, fuel + 1, d, rest, _, _, _, _ =>
    readValue_of_readAtom (c := 'f') rfl (by decide) (readAtom_bool layout level false rest)
  | .int n, level, fuel + 1, d, rest, hv, _, _, hrest => by
    obtain ⟨c, hc, hne⟩ := head?_intText n
    exact readValue_of_readAtom hc hne (readAtom_intText n hrest hv)
  | .float x, level, fuel + 1, d, rest, hv, _, _, _ => absurd hv (by simp [Exact])
  | .thing t, level, fuel + 1, d, rest, hv, _, _, _ => absurd hv (by simp [Exact])
  | .str s, level, fuel + 1, d, rest, _, _, _, _ => readValue_str fuel d s rest
  | .arr [], level, fuel + 1, d, rest, _, hd, _, _ => by
    match d, hd with
    | 0, hd => simp [depth, itemsDepth] at hd
    | d + 1, _ =>
      have hskip : skipSpace (']' :: rest) = ']' :: rest := skipSpace_cons _ (by decide)
      simp only [writeValue, List.cons_append, List.nil_append]
      rw [readValue, hskip]
      rfl
  | .arr (item :: items), level, fuel + 1, d, rest, hv, hd, hfuel, _ => by
    match d, hd with
    | 0, hd => simp [depth] at hd
    | d + 1, hd =>
      have hlength : 2 * (itemsText layout (level + 1) (item :: items)).length + 1 ≤ fuel := by
        rw [writeValue_arr] at hfuel
        simp only [List.length_cons, List.length_append] at hfuel
        omega
      have hdepth : itemsDepth (item :: items) ≤ d := by
        simp only [depth] at hd
        omega
      have hend : skipSpace (layout.break level ++ ']' :: rest) = ']' :: rest := by
        rw [skipSpace_append _ (isSpace_of_mem_break hlayout level)]
        exact skipSpace_cons _ (by decide)
      exact readValue_arr hlayout hv.1 (readItems_itemsText hlayout (item :: items) (level + 1) fuel d
        _ rest (by simp) hv hdepth hlength (endsNumber_break layout level rest (by decide)) hend)
  | .obj [], level, fuel + 1, d, rest, _, hd, _, _ => by
    match d, hd with
    | 0, hd => simp [depth, membersDepth] at hd
    | d + 1, _ =>
      have hskip : skipSpace ('\x7d' :: rest) = '\x7d' :: rest := skipSpace_cons _ (by decide)
      simp only [writeValue, List.cons_append, List.nil_append]
      rw [readValue, hskip]
      rfl
  | .obj (m :: members), level, fuel + 1, d, rest, hv, hd, hfuel, _ => by
    match d, hd with
    | 0, hd => simp [depth] at hd
    | d + 1, hd =>
      have hlength : 2 * (membersText layout (level + 1) (m :: members)).length + 1 ≤ fuel := by
        rw [writeValue_obj] at hfuel
        simp only [List.length_cons, List.length_append] at hfuel
        omega
      have hdepth : membersDepth (m :: members) ≤ d := by
        simp only [depth] at hd
        omega
      have hend : skipSpace (layout.break level ++ '\x7d' :: rest) = '\x7d' :: rest := by
        rw [skipSpace_append _ (isSpace_of_mem_break hlayout level)]
        exact skipSpace_cons _ (by decide)
      exact readValue_obj hlayout hv (readMembers_membersText hlayout (m :: members) (level + 1)
        fuel d _ rest (by simp) hv hdepth hlength (endsNumber_break layout level rest (by decide))
        hend)

theorem readItems_itemsText {layout : Layout} (hlayout : layout.IsBlank) :
    (items : List Json) → (level fuel d : Nat) → (tail after : List Char) → items ≠ [] →
    ExactItems items → itemsDepth items ≤ d →
    2 * (itemsText layout level items).length + 1 ≤ fuel → EndsNumber tail →
    skipSpace tail = ']' :: after →
    readItems half fuel d (itemsText layout level items ++ tail) = .ok (items, after)
  | [], _, _, _, _, _, hne, _, _, _, _, _ => absurd rfl hne
  | item :: items, level, 0, d, tail, after, _, _, _, hfuel, _, _ => by omega
  | [item], level, fuel + 1, d, tail, after, _, hexact, hd, hfuel, htail, hafter => by
    have hlength : 2 * (writeValue layout level item).length ≤ fuel := by
      simp only [itemsText, writeItems, List.append_nil] at hfuel
      omega
    have hdepth : item.depth ≤ d := by
      simp only [itemsDepth] at hd
      omega
    have hitem := readValue_writeValue hlayout item level fuel d tail hexact.1 hdepth hlength htail
    simp only [itemsText, writeItems, List.append_nil]
    exact readItems_last hitem hafter
  | item :: next :: items, level, fuel + 1, d, tail, after, _, hexact, hd, hfuel, htail, hafter => by
    have hpos := length_writeValue_pos layout level hexact.1
    have hlength : 2 * (writeValue layout level item).length ≤ fuel ∧
        2 * (itemsText layout level (next :: items)).length + 1 ≤ fuel := by
      rw [itemsText, writeItems_cons] at hfuel
      simp only [List.length_append] at hfuel
      omega
    have hdepth : item.depth ≤ d ∧ itemsDepth (next :: items) ≤ d := by
      rw [itemsDepth] at hd
      omega
    have hends := endsNumber_writeItems layout level (next :: items) htail
    have hitem := readValue_writeValue hlayout item level fuel d
      (writeItems layout level (next :: items) ++ tail) hexact.1 hdepth.1 hlength.1 hends
    obtain ⟨more, hcomma, hmore⟩ :=
      skipSpace_writeItems hlayout level next items hexact.2.1 tail
    have hitems := readItems_itemsText hlayout (next :: items) level fuel d tail after (by simp)
      hexact.2 hdepth.2 hlength.2 htail hafter
    rw [itemsText, List.append_assoc]
    exact readItems_more hitem hcomma (by rw [hmore, hitems])

theorem readMembers_membersText {layout : Layout} (hlayout : layout.IsBlank) :
    (members : List (String × Json)) → (level fuel d : Nat) → (tail after : List Char) →
    members ≠ [] → ExactMembers members → membersDepth members ≤ d →
    2 * (membersText layout level members).length + 1 ≤ fuel → EndsNumber tail →
    skipSpace tail = '\x7d' :: after →
    readMembers half fuel d (membersText layout level members ++ tail) = .ok (members, after)
  | [], _, _, _, _, _, hne, _, _, _, _, _ => absurd rfl hne
  | (name, value) :: members, level, 0, d, tail, after, _, _, _, hfuel, _, _ => by omega
  | [(name, value)], level, fuel + 1, d, tail, after, _, hexact, hd, hfuel, htail, hafter => by
    obtain ⟨_, hvalue, _⟩ := hexact
    have hlength : 2 * (writeValue layout level value).length ≤ fuel := by
      simp only [membersText, writeMembers, List.append_nil, List.length_append,
        List.length_cons] at hfuel
      omega
    have hdepth : value.depth ≤ d := by
      simp only [membersDepth] at hd
      omega
    have hread := readValue_writeValue hlayout value level fuel d tail hvalue hdepth hlength htail
    have hstart := skipSpace_writeValue layout level hvalue tail
    simp only [membersText, writeMembers, List.append_nil, List.append_assoc, List.cons_append]
    exact readMembers_last hread hstart hafter
  | (name, value) :: next :: members, level, fuel + 1, d, tail, after, _, hexact, hd, hfuel, htail,
      hafter => by
    obtain ⟨_, hvalue, hrest⟩ := hexact
    have hlength : 2 * (writeValue layout level value).length ≤ fuel ∧
        2 * (membersText layout level (next :: members)).length + 1 ≤ fuel := by
      rw [membersText, writeMembers_cons] at hfuel
      simp only [List.length_append, List.length_cons] at hfuel
      omega
    have hdepth : value.depth ≤ d ∧ membersDepth (next :: members) ≤ d := by
      rw [membersDepth] at hd
      omega
    have hends := endsNumber_writeMembers layout level (next :: members) htail
    have hread := readValue_writeValue hlayout value level fuel d
      (writeMembers layout level (next :: members) ++ tail) hvalue hdepth.1 hlength.1 hends
    have hstart := skipSpace_writeValue layout level hvalue
      (writeMembers layout level (next :: members) ++ tail)
    obtain ⟨more, hcomma, hmore⟩ := skipSpace_writeMembers hlayout level next members tail
    have hmembers := readMembers_membersText hlayout (next :: members) level fuel d tail after
      (by simp) hrest hdepth.2 hlength.2 htail hafter
    rw [membersText]
    simp only [List.append_assoc, List.cons_append]
    exact readMembers_more hread hstart hcomma (by rw [hmore, hmembers])

end

/-! ### A whole text -/

theorem readText_writeValue {layout : Layout} (hlayout : layout.IsBlank) {v : Json} (hv : v.Exact)
    (hd : v.depth ≤ depthLimit) : readText half (writeValue layout 0 v) = .ok v := by
  obtain ⟨c, cs, hcs, hspace, _, hmark⟩ := writeValue_eq_cons layout 0 hv
  have hhead : ¬(writeValue layout 0 v).head? = some (Char.ofNat 0xFEFF) := by
    rw [hcs]
    simpa using hmark
  have hskip : skipSpace (writeValue layout 0 v) = writeValue layout 0 v := by
    rw [hcs]
    exact skipSpace_cons cs hspace
  have hread : readValue half (2 * (writeValue layout 0 v).length + 2) depthLimit
      (writeValue layout 0 v ++ []) = .ok (v, []) :=
    readValue_writeValue hlayout v 0 _ depthLimit [] hv hd (by omega) endsNumber_nil
  rw [List.append_nil] at hread
  rw [readText, if_neg hhead, hskip, hread]
  rfl

/-- A written value is read back. -/
theorem read_write {layout : Layout} (hlayout : layout.IsBlank) {v : Json} (hv : v.Exact)
    (hd : v.depth ≤ depthLimit) : read (write layout v) half = .ok v := by
  rw [read, write, String.toList_ofList, readText_writeValue hlayout hv hd]

end Vitae.Json
