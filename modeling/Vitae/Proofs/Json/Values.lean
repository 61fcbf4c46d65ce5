import Vitae.Proofs.Json.Atoms

/-!
# Reading back values

A written value is read back as the same value, on one line or indented by white space. This holds
for values without floating-point numbers whose integers have not too many digits, whose objects
give no name twice, and whose arrays and objects are not nested too deeply.
-/

namespace Vitae.Json

variable {half : Char}

/-! ### Which values -/

mutual

def depth : Json → Nat
  | .arr items => 1 + itemsDepth items
  | .obj members => 1 + membersDepth members
  | _ => 0

def itemsDepth : List Json → Nat
  | [] => 0
  | item :: rest => max (depth item) (itemsDepth rest)

def membersDepth : List (String × Json) → Nat
  | [] => 0
  | (_, value) :: rest => max (depth value) (membersDepth rest)

end

mutual

/-- Values whose text says all about them: no floating-point numbers, no integer of more digits
than are read, no name twice in an object. -/
def Exact : Json → Prop
  | .int n => intDigits n ≤ digitLimit
  | .float _ => False
  | .thing _ => False
  | .arr items => ExactItems items
  | .obj members => ExactMembers members
  | _ => True

def ExactItems : List Json → Prop
  | [] => True
  | item :: rest => Exact item ∧ ExactItems rest

/-- Members with exact values and different names. -/
def ExactMembers : List (String × Json) → Prop
  | [] => True
  | (name, value) :: rest => (∀ m ∈ rest, m.1 ≠ name) ∧ Exact value ∧ ExactMembers rest

end

mutual

theorem isJson_of_exact : (v : Json) → v.Exact → v.isJson = true
  | .null, _ => rfl
  | .bool _, _ => rfl
  | .int _, _ => rfl
  | .str _, _ => rfl
  | .arr items, h => areJson_of_exact items h
  | .obj members, h => membersAreJson_of_exact members h

theorem areJson_of_exact : (items : List Json) → ExactItems items → areJson items = true
  | [], _ => rfl
  | item :: rest, h => by
    rw [areJson, isJson_of_exact item h.1, areJson_of_exact rest h.2]
    rfl

theorem membersAreJson_of_exact : (members : List (String × Json)) → ExactMembers members →
    membersAreJson members = true
  | [], _ => rfl
  | (name, value) :: rest, h => by
    rw [membersAreJson, isJson_of_exact value h.2.1, membersAreJson_of_exact rest h.2.2]
    rfl

end

/-! ### Members -/

theorem setMember_of_new {members : List (String × Json)} {name : String} (value : Json)
    (h : ∀ m ∈ members, m.1 ≠ name) : setMember members name value = members ++ [(name, value)] := by
  induction members with
  | nil => rfl
  | cons m rest ih =>
    have hm : (m.1 == name) = false := by
      simpa using h m (List.mem_cons_self ..)
    have hrest : ∀ x ∈ rest, x.1 ≠ name := fun x hx => h x (List.mem_cons_of_mem _ hx)
    simp only [setMember, hm, ih hrest, List.cons_append]
    rfl

theorem foldl_setMember {pairs members : List (String × Json)} (hpairs : ExactMembers pairs)
    (hnew : ∀ p ∈ pairs, ∀ m ∈ members, m.1 ≠ p.1) :
    pairs.foldl (fun members p => setMember members p.1 p.2) members = members ++ pairs := by
  induction pairs generalizing members with
  | nil => simp
  | cons p rest ih =>
    obtain ⟨name, value⟩ := p
    obtain ⟨hname, _, hrest⟩ := hpairs
    have hset := setMember_of_new value (hnew (name, value) (List.mem_cons_self ..))
    have hnext : ∀ p ∈ rest, ∀ m ∈ members ++ [(name, value)], m.1 ≠ p.1 := by
      intro p hp m hm
      rcases List.mem_append.1 hm with hm | hm
      · exact hnew p (List.mem_cons_of_mem _ hp) m hm
      · rw [List.mem_singleton.1 hm]
        exact (hname p hp).symm
    rw [List.foldl_cons, hset, ih hrest hnext, List.append_assoc]
    rfl

theorem collect_of_exact {members : List (String × Json)} (h : ExactMembers members) :
    collect members = members := by
  have hall : collect members = [] ++ members := foldl_setMember h (by simp)
  rw [hall, List.nil_append]

/-! ### White space of a layout -/

def Layout.IsBlank : Layout → Prop
  | .line => True
  | .indented unit => ∀ c ∈ unit, isSpace c = true

theorem skipSpace_append {blanks : List Char} (rest : List Char)
    (h : ∀ c ∈ blanks, isSpace c = true) : skipSpace (blanks ++ rest) = skipSpace rest :=
  List.dropWhile_append_of_pos h

theorem skipSpace_cons {c : Char} (rest : List Char) (h : isSpace c = false) :
    skipSpace (c :: rest) = c :: rest := by
  simp [skipSpace, h]

theorem isSpace_of_mem_break {layout : Layout} (hlayout : layout.IsBlank) (level : Nat) :
    ∀ c ∈ layout.break level, isSpace c = true := by
  intro c hc
  match layout, hlayout with
  | .line, _ => simp [Layout.break] at hc
  | .indented unit, hunit =>
    simp only [Layout.break, List.mem_cons, List.mem_flatten, List.mem_replicate] at hc
    rcases hc with rfl | ⟨l, ⟨_, rfl⟩, hc⟩
    · decide
    · exact hunit c hc

/-- Between two items stands a comma, and then only white space. -/
theorem between_eq_cons {layout : Layout} (hlayout : layout.IsBlank) (level : Nat) :
    ∃ blanks, layout.between level = ',' :: blanks ∧ ∀ c ∈ blanks, isSpace c = true := by
  match layout, hlayout with
  | .line, _ =>
    refine ⟨[' '], rfl, fun c hc => ?_⟩
    rw [List.mem_singleton.1 hc]
    decide
  | .indented unit, hunit =>
    have hblank : (Layout.indented unit).IsBlank := hunit
    exact ⟨_, rfl, isSpace_of_mem_break hblank level⟩

/-- A closing character behind the last line break ends a number before it. -/
theorem endsNumber_break {c : Char} (layout : Layout) (level : Nat) (rest : List Char)
    (hc : isDigit c = false ∧ c ≠ '.' ∧ c ≠ 'e' ∧ c ≠ 'E') :
    EndsNumber (layout.break level ++ c :: rest) := by
  match layout with
  | .line => exact endsNumber_cons rest hc
  | .indented unit => exact endsNumber_cons _ (by decide)

theorem endsNumber_between (layout : Layout) (level : Nat) (rest : List Char) :
    EndsNumber (layout.between level ++ rest) := by
  match layout with
  | .line => exact endsNumber_cons _ (by decide)
  | .indented unit => exact endsNumber_cons _ (by decide)

theorem endsNumber_writeItems (layout : Layout) (level : Nat) (items : List Json)
    {rest : List Char} (h : EndsNumber rest) :
    EndsNumber (writeItems layout level items ++ rest) := by
  match items with
  | [] => exact h
  | item :: items =>
    rw [writeItems, List.append_assoc]
    exact endsNumber_between layout level _

theorem endsNumber_writeMembers (layout : Layout) (level : Nat) (members : List (String × Json))
    {rest : List Char} (h : EndsNumber rest) :
    EndsNumber (writeMembers layout level members ++ rest) := by
  match members with
  | [] => exact h
  | (name, value) :: members =>
    rw [writeMembers, List.append_assoc]
    exact endsNumber_between layout level _

/-! ### First characters -/

/-- What a written value can start with: no white space, no end of an array, and nothing that marks
the order of a file's bytes. -/
def StartsValue (c : Char) : Prop := isSpace c = false ∧ c ≠ ']' ∧ c ≠ Char.ofNat 0xFEFF

theorem startsValue_digit {c : Char} (h : isDigit c = true) : StartsValue c := by
  have hne : ∀ d, isDigit d = false → c ≠ d := fun d hd => ne_of_isDigit h hd
  refine ⟨?_, hne _ (by decide), hne _ (by decide)⟩
  simp only [isSpace, Bool.or_eq_false_iff, beq_eq_false_iff_ne]
  exact ⟨⟨⟨hne _ (by decide), hne _ (by decide)⟩, hne _ (by decide)⟩, hne _ (by decide)⟩

theorem intText_eq_cons (n : Int) : ∃ c cs, intText n = c :: cs ∧ StartsValue c := by
  by_cases hsign : n < 0
  · exact ⟨'-', Nat.toDigits 10 n.natAbs, by simp only [intText, hsign, if_true], by decide,
      by decide, by decide⟩
  · cases hd : Nat.toDigits 10 n.natAbs with
    | nil => exact absurd hd Nat.toDigits_ne_nil
    | cons d ds =>
      refine ⟨d, ds, by simp only [intText, hsign, if_false, hd], startsValue_digit ?_⟩
      exact isDigit_of_mem_toDigits (n := n.natAbs) (hd ▸ List.mem_cons_self ..)

theorem writeValue_eq_cons (layout : Layout) (level : Nat) {v : Json} (hv : v.Exact) :
    ∃ c cs, writeValue layout level v = c :: cs ∧ StartsValue c := by
  cases v with
  | null => exact ⟨'n', _, rfl, by decide, by decide, by decide⟩
  | bool b =>
    cases b with
    | true => exact ⟨'t', _, rfl, by decide, by decide, by decide⟩
    | false => exact ⟨'f', _, rfl, by decide, by decide, by decide⟩
  | int n => exact intText_eq_cons n
  | float x => exact absurd hv (by simp [Exact])
  | thing t => exact absurd hv (by simp [Exact])
  | str s => exact ⟨'"', _, rfl, by decide, by decide, by decide⟩
  | arr items =>
    cases items with
    | nil => exact ⟨'[', _, rfl, by decide, by decide, by decide⟩
    | cons item rest => exact ⟨'[', _, by rw [writeValue], by decide, by decide, by decide⟩
  | obj members =>
    cases members with
    | nil => exact ⟨'\x7b', _, rfl, by decide, by decide, by decide⟩
    | cons m rest =>
      obtain ⟨name, value⟩ := m
      exact ⟨'\x7b', _, by rw [writeValue], by decide, by decide, by decide⟩

/-! ### Reading a written value -/

def itemsText (layout : Layout) (level : Nat) : List Json → List Char
  | [] => []
  | item :: rest => writeValue layout level item ++ writeItems layout level rest

def membersText (layout : Layout) (level : Nat) : List (String × Json) → List Char
  | [] => []
  | (name, value) :: rest =>
    writeString name ++ (':' :: ' ' ::
      (writeValue layout level value ++ writeMembers layout level rest))

theorem writeItems_cons (layout : Layout) (level : Nat) (item : Json) (rest : List Json) :
    writeItems layout level (item :: rest) =
      layout.between level ++ itemsText layout level (item :: rest) := by
  rw [writeItems, itemsText]

theorem writeMembers_cons (layout : Layout) (level : Nat) (m : String × Json)
    (rest : List (String × Json)) :
    writeMembers layout level (m :: rest) =
      layout.between level ++ membersText layout level (m :: rest) := by
  obtain ⟨name, value⟩ := m
  rw [writeMembers, membersText]

theorem writeValue_arr (layout : Layout) (level : Nat) (item : Json) (rest : List Json) :
    writeValue layout level (.arr (item :: rest)) =
      '[' :: (layout.break (level + 1) ++ (itemsText layout (level + 1) (item :: rest) ++
        (layout.break level ++ [']']))) := by
  rw [writeValue, itemsText, List.append_assoc]

theorem writeValue_obj (layout : Layout) (level : Nat) (m : String × Json)
    (rest : List (String × Json)) :
    writeValue layout level (.obj (m :: rest)) =
      '\x7b' :: (layout.break (level + 1) ++ (membersText layout (level + 1) (m :: rest) ++
        (layout.break level ++ ['\x7d']))) := by
  obtain ⟨name, value⟩ := m
  rw [writeValue, membersText]
  simp only [List.append_assoc, List.cons_append]

theorem readValue_atom {fuel d : Nat} {c : Char} {cs : List Char}
    (h : c ≠ '"' ∧ c ≠ '[' ∧ c ≠ '\x7b') :
    readValue half (fuel + 1) d (c :: cs) = readAtom (c :: cs) := by
  unfold readValue
  split
  · rename_i heq
    exact absurd (List.cons.inj heq).1 h.1
  · rename_i heq
    exact absurd (List.cons.inj heq).1 h.2.1
  · rename_i heq
    exact absurd (List.cons.inj heq).1 h.2.2
  · rfl

end Vitae.Json
