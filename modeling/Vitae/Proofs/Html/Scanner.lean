/-!
# Reading HTML back

A reader of HTML fragments that knows nothing of documents. It cuts a text at its angle brackets
into single characters of data and tags, and reads off the name and the attributes of each tag;
`nest` keeps the names of the open elements, the innermost first.
-/

namespace Vitae.Html

structure Attribute where
  name : List Char
  value : List Char
  deriving DecidableEq, Repr

inductive Token where
  | char (c : Char)
  | opening (name : List Char) (attributes : List Attribute)
  | closing (name : List Char)
  deriving DecidableEq, Repr

/-! ### Tags -/

/-- Where a reader of attributes stands: what it has read of a name or value is kept backwards. -/
inductive Place where
  | between
  | name (done : List Char)
  | value (name done : List Char)

/-- The attributes that a text writes from some place on, each after one blank and with its value
between double quotes. -/
def attributesFrom : Place → List Char → Option (List Attribute)
  | .between, [] => some []
  | .between, ' ' :: cs => attributesFrom (.name []) cs
  | .name done, '=' :: '"' :: cs => attributesFrom (.value done.reverse []) cs
  | .name done, c :: cs => if c.isAlpha then attributesFrom (.name (c :: done)) cs else none
  | .value name done, '"' :: cs => (attributesFrom .between cs).map (⟨name, done.reverse⟩ :: ·)
  | .value name done, c :: cs => attributesFrom (.value name (c :: done)) cs
  | _, _ => none

def tag? : List Char → Option Token
  | '/' :: name => if name.all Char.isAlpha then some (.closing name) else none
  | cs =>
    let name := cs.takeWhile Char.isAlpha
    (attributesFrom .between (cs.drop name.length)).map (.opening name)

theorem ne_bracket_of_isAlpha {c : Char} (h : c.isAlpha = true) : c ≠ '<' ∧ c ≠ '>' := by
  constructor
  · rintro rfl
    exact absurd h (by decide)
  · rintro rfl
    exact absurd h (by decide)

theorem attributesFrom_value {value : List Char} (name done cs : List Char)
    (h : ∀ c ∈ value, c ≠ '"') :
    attributesFrom (.value name done) (value ++ '"' :: cs) =
      (attributesFrom .between cs).map (⟨name, done.reverse ++ value⟩ :: ·) := by
  induction value generalizing done with
  | nil => rw [List.nil_append, attributesFrom, List.append_nil]
  | cons c value ih =>
    have hc := h c (List.mem_cons_self ..)
    have hvalue := ih (c :: done) fun e he => h e (List.mem_cons_of_mem _ he)
    rw [List.cons_append, attributesFrom, hvalue, List.reverse_cons, List.append_assoc,
      List.singleton_append]
    · intro heq
      exact absurd heq hc

theorem attributesFrom_name {name : List Char} (done cs : List Char)
    (h : ∀ c ∈ name, c.isAlpha = true) :
    attributesFrom (.name done) (name ++ '=' :: '"' :: cs) =
      attributesFrom (.value (done.reverse ++ name) []) cs := by
  induction name generalizing done with
  | nil => rw [List.nil_append, attributesFrom, List.append_nil]
  | cons c name ih =>
    have hc := h c (List.mem_cons_self ..)
    have hname := ih (c :: done) fun e he => h e (List.mem_cons_of_mem _ he)
    rw [List.cons_append, attributesFrom, if_pos hc, hname, List.reverse_cons, List.append_assoc,
      List.singleton_append]
    · intro _ heq _
      rw [heq] at hc
      exact absurd hc (by decide)

def Attribute.spell (a : Attribute) : List Char :=
  ' ' :: (a.name ++ ('=' :: '"' :: (a.value ++ ['"'])))

def spell (attributes : List Attribute) : List Char := attributes.flatMap Attribute.spell

def Attribute.IsReadable (a : Attribute) : Prop :=
  (∀ c ∈ a.name, c.isAlpha = true) ∧ ∀ c ∈ a.value, c ≠ '<' ∧ c ≠ '>' ∧ c ≠ '"'

theorem attributesFrom_spell {attributes : List Attribute}
    (h : ∀ a ∈ attributes, a.IsReadable) :
    attributesFrom .between (spell attributes) = some attributes := by
  induction attributes with
  | nil => rfl
  | cons a rest ih =>
    obtain ⟨hname, hvalue⟩ := h a (List.mem_cons_self ..)
    have hrest := ih fun b hb => h b (List.mem_cons_of_mem _ hb)
    simp only [spell, List.flatMap_cons, Attribute.spell, List.cons_append, List.append_assoc,
      List.nil_append]
    rw [attributesFrom, attributesFrom_name [] _ hname,
      attributesFrom_value _ [] _ fun c hc => (hvalue c hc).2.2]
    simp only [spell] at hrest
    rw [hrest]
    rfl

theorem ne_bracket_of_mem_spell {attributes : List Attribute}
    (h : ∀ a ∈ attributes, a.IsReadable) : ∀ c ∈ spell attributes, c ≠ '<' ∧ c ≠ '>' := by
  intro c hc
  obtain ⟨a, ha, hc⟩ := List.mem_flatMap.1 hc
  obtain ⟨hname, hvalue⟩ := h a ha
  simp only [Attribute.spell, List.mem_cons, List.mem_append, List.not_mem_nil, or_false] at hc
  rcases hc with rfl | hc | rfl | rfl | hc | rfl
  · decide
  · exact ne_bracket_of_isAlpha (hname c hc)
  · decide
  · decide
  · exact ⟨(hvalue c hc).1, (hvalue c hc).2.1⟩
  · decide

theorem takeWhile_isAlpha_spell (attributes : List Attribute) :
    (spell attributes).takeWhile Char.isAlpha = [] := by
  cases attributes <;> rfl

theorem tag?_opening {name : List Char} {attributes : List Attribute}
    (hname : ∀ c ∈ name, c.isAlpha = true) (h : ∀ a ∈ attributes, a.IsReadable) :
    tag? (name ++ spell attributes) = some (.opening name attributes) := by
  have hrun : (name ++ spell attributes).takeWhile Char.isAlpha = name := by
    rw [List.takeWhile_append_of_pos hname, takeWhile_isAlpha_spell, List.append_nil]
  have hslash : ∀ rest, name ++ spell attributes ≠ '/' :: rest := by
    intro rest heq
    cases name with
    | nil =>
      cases attributes with
      | nil => simp [spell] at heq
      | cons a attributes => simp [spell, Attribute.spell] at heq
    | cons c name =>
      have hc := hname c (List.mem_cons_self ..)
      rw [(List.cons.inj heq).1] at hc
      exact absurd hc (by decide)
  unfold tag?
  split
  · exact absurd (by assumption) (hslash _)
  · simp only [hrun, List.drop_left, attributesFrom_spell h, Option.map_some]

theorem tag?_closing {name : List Char} (hname : ∀ c ∈ name, c.isAlpha = true) :
    tag? ('/' :: name) = some (.closing name) := by
  rw [tag?, if_pos (List.all_eq_true.2 hname)]

/-! ### Fragments -/

/-- The tokens of a text; of a tag that it stands in, what has been read is kept backwards. -/
def scanFrom : Option (List Char) → List Char → Option (List Token)
  | none, [] => some []
  | some _, [] => none
  | none, c :: cs =>
    if c = '<' then scanFrom (some []) cs
    else if c = '>' then none
    else (scanFrom none cs).map (.char c :: ·)
  | some done, c :: cs =>
    if c = '<' then none
    else if c = '>' then
      match tag? done.reverse with
      | some tag => (scanFrom none cs).map (tag :: ·)
      | none => none
    else scanFrom (some (c :: done)) cs

/-- The tokens of a fragment. There are none if angle brackets do not pair or a tag is not one. -/
def scan (cs : List Char) : Option (List Token) := scanFrom none cs

example : scan "a<b c=\"d\">e</b>".toList =
    some [.char 'a', .opening ['b'] [⟨['c'], ['d']⟩], .char 'e', .closing ['b']] := by decide

theorem scanFrom_append {opened : Option (List Char)} {as : List Char} {tokens : List Token}
    (bs : List Char) (h : scanFrom opened as = some tokens) :
    scanFrom opened (as ++ bs) = (scanFrom none bs).map (tokens ++ ·) := by
  induction as generalizing opened tokens with
  | nil =>
    cases opened with
    | none =>
      rw [scanFrom, Option.some.injEq] at h
      subst h
      simp
    | some done => simp [scanFrom] at h
  | cons c as ih =>
    cases opened with
    | none =>
      rw [scanFrom] at h
      rw [List.cons_append, scanFrom]
      by_cases hopen : c = '<'
      · rw [if_pos hopen] at h ⊢
        exact ih h
      by_cases hclose : c = '>'
      · rw [if_neg hopen, if_pos hclose] at h
        cases h
      rw [if_neg hopen, if_neg hclose] at h ⊢
      obtain ⟨rest, hrest, rfl⟩ := Option.map_eq_some_iff.1 h
      rw [ih hrest, Option.map_map]
      rfl
    | some done =>
      rw [scanFrom] at h
      rw [List.cons_append, scanFrom]
      by_cases hopen : c = '<'
      · rw [if_pos hopen] at h
        cases h
      rw [if_neg hopen] at h ⊢
      by_cases hclose : c = '>'
      · rw [if_pos hclose] at h ⊢
        cases htag : tag? done.reverse with
        | none =>
          rw [htag] at h
          cases h
        | some tag =>
          rw [htag] at h
          obtain ⟨rest, hrest, rfl⟩ := Option.map_eq_some_iff.1 h
          simp only [ih hrest, Option.map_map]
          rfl
      rw [if_neg hclose] at h ⊢
      exact ih h

theorem scan_append {as bs : List Char} {tokens more : List Token} (ha : scan as = some tokens)
    (hb : scan bs = some more) : scan (as ++ bs) = some (tokens ++ more) := by
  have h := scanFrom_append bs ha
  rw [show scanFrom none bs = some more from hb] at h
  exact h

theorem scan_data {cs : List Char} (h : ∀ c ∈ cs, c ≠ '<' ∧ c ≠ '>') :
    scan cs = some (cs.map .char) := by
  unfold scan
  induction cs with
  | nil => rfl
  | cons c cs ih =>
    obtain ⟨hopen, hclose⟩ := h c (List.mem_cons_self ..)
    rw [scanFrom, if_neg hopen, if_neg hclose, ih fun e he => h e (List.mem_cons_of_mem _ he)]
    rfl

theorem scanFrom_tag {body : List Char} (done : List Char)
    (h : ∀ c ∈ body, c ≠ '<' ∧ c ≠ '>') {tag : Token} (htag : tag? (done.reverse ++ body) = some tag) :
    scanFrom (some done) (body ++ ['>']) = some [tag] := by
  induction body generalizing done with
  | nil =>
    rw [List.append_nil] at htag
    rw [List.nil_append, scanFrom, if_neg (by decide), if_pos rfl, htag]
    rfl
  | cons c body ih =>
    obtain ⟨hopen, hclose⟩ := h c (List.mem_cons_self ..)
    rw [List.cons_append, scanFrom, if_neg hopen, if_neg hclose]
    apply ih (c :: done) fun e he => h e (List.mem_cons_of_mem _ he)
    rw [List.reverse_cons, List.append_assoc, List.singleton_append]
    exact htag

theorem scan_tag {body : List Char} {tag : Token} (h : ∀ c ∈ body, c ≠ '<' ∧ c ≠ '>')
    (htag : tag? body = some tag) : scan ('<' :: (body ++ ['>'])) = some [tag] := by
  rw [scan, scanFrom, if_pos rfl]
  exact scanFrom_tag [] h htag

/-- A fragment between two tags of one name. -/
theorem scan_wrap {name body : List Char} {attributes : List Attribute} {tokens : List Token}
    (hname : ∀ c ∈ name, c.isAlpha = true) (h : ∀ a ∈ attributes, a.IsReadable)
    (hbody : scan body = some tokens) :
    scan ('<' :: (name ++ (spell attributes ++ ('>' :: (body ++
      ('<' :: '/' :: (name ++ ['>']))))))) =
        some (.opening name attributes :: (tokens ++ [.closing name])) := by
  have hopening : scan ('<' :: ((name ++ spell attributes) ++ ['>'])) =
      some [.opening name attributes] := by
    refine scan_tag ?_ (tag?_opening hname h)
    intro c hc
    rcases List.mem_append.1 hc with hc | hc
    · exact ne_bracket_of_isAlpha (hname c hc)
    · exact ne_bracket_of_mem_spell h c hc
  have hclosing : scan ('<' :: (('/' :: name) ++ ['>'])) = some [.closing name] := by
    refine scan_tag ?_ (tag?_closing hname)
    intro c hc
    rcases List.mem_cons.1 hc with rfl | hc
    · decide
    · exact ne_bracket_of_isAlpha (hname c hc)
  have hall := scan_append hopening (scan_append hbody hclosing)
  simpa only [List.cons_append, List.append_assoc, List.nil_append] using hall

/-! ### What a fragment says -/

/-- The open elements after some tokens, the innermost first; none if a tag closes another element
than the innermost one. -/
def nest : List (List Char) → List Token → Option (List (List Char))
  | opened, [] => some opened
  | opened, .char _ :: tokens => nest opened tokens
  | opened, .opening name _ :: tokens => nest (name :: opened) tokens
  | [], .closing _ :: _ => none
  | innermost :: opened, .closing name :: tokens =>
    if innermost = name then nest opened tokens else none

def Token.char? : Token → Option Char
  | .char c => some c
  | _ => none

def Token.anchor? : Token → Option (List Attribute)
  | .opening name attributes => if name = ['a'] then some attributes else none
  | _ => none

def charData (tokens : List Token) : List Char := tokens.filterMap Token.char?

def anchors (tokens : List Token) : List (List Attribute) :=
  tokens.filterMap Token.anchor?

theorem nest_append {opened after : List (List Char)} {tokens : List Token} (more : List Token)
    (h : nest opened tokens = some after) : nest opened (tokens ++ more) = nest after more := by
  induction tokens generalizing opened with
  | nil =>
    rw [nest, Option.some.injEq] at h
    rw [h, List.nil_append]
  | cons token tokens ih =>
    cases token with
    | char c => exact ih h
    | opening name attributes => exact ih h
    | closing name =>
      cases opened with
      | nil => simp [nest] at h
      | cons innermost opened =>
        rw [nest] at h
        rw [List.cons_append, nest]
        by_cases hname : innermost = name
        · rw [if_pos hname] at h ⊢
          exact ih h
        · rw [if_neg hname] at h
          cases h

end Vitae.Html
