import Vitae.Settings

/-!
# Values of options

Options are made from a mapping and then updated any number of times. In every state that is reached
a field has the value it was last given: by the last update that names it, else by the last entry of
the mapping that does, in either spelling, and else its default. The options of the writer of the
editor's format are checked whenever they are made or updated, so that none is ever reached with an
indentation below zero.
-/

namespace Vitae.Options

/-! ### Values that were given last -/

/-- The value that comes last under a name. -/
def lastGiven (entries : List (String × Json)) (name : String) : Option Json :=
  Json.member? entries.reverse name

theorem lastGiven_cons (entry : String × Json) (entries : List (String × Json)) (name : String) :
    lastGiven (entry :: entries) name =
      (lastGiven entries name).or (if entry.1 = name then some entry.2 else none) := by
  unfold lastGiven Json.member?
  rw [List.reverse_cons, List.find?_append]
  cases hfound : entries.reverse.find? (·.1 == name) with
  | some found => rfl
  | none =>
    by_cases hname : entry.1 = name
    · simp [hname]
    · simp [hname]

theorem lastGiven_filter {p : String → Bool} {name : String} (h : p name = true)
    (entries : List (String × Json)) :
    lastGiven (entries.filter fun e => p e.1) name = lastGiven entries name := by
  induction entries with
  | nil => rfl
  | cons entry entries ih =>
    rw [List.filter_cons]
    by_cases hentry : p entry.1 = true
    · rw [if_pos hentry, lastGiven_cons, lastGiven_cons, ih]
    · have hname : entry.1 ≠ name := by
        rintro rfl
        exact hentry h
      rw [if_neg hentry, lastGiven_cons, if_neg hname, Option.or_none, ih]

theorem assign_eq (fields : List (String × Json)) (name : String) (value : Json) :
    assign fields name value =
      fields.map fun f => (f.1, (if name = f.1 then some value else none).getD f.2) := by
  unfold assign
  apply List.map_congr_left
  intro f _
  by_cases hname : f.1 = name
  · simp [hname]
  · simp [hname, Ne.symm hname]

/-- After assignments every field has what it was given last, if anything. -/
theorem assignAll_eq (fields changes : List (String × Json)) :
    assignAll fields changes = fields.map fun f => (f.1, (lastGiven changes f.1).getD f.2) := by
  induction changes generalizing fields with
  | nil => exact (List.map_id fields).symm
  | cons change changes ih =>
    have hfold : assignAll fields (change :: changes) =
        assignAll (assign fields change.1 change.2) changes := rfl
    rw [hfold, ih, assign_eq, List.map_map]
    apply List.map_congr_left
    intro f _
    dsimp only [Function.comp]
    rw [lastGiven_cons, Option.getD_or]

/-! ### States -/

/-- The value that a field is given by the last update that names it, else by the last entry of the
mapping with one of its spellings. -/
def given (entries : List (String × Json)) (updates : List (List (String × Json)))
    (name : String) : Option Json :=
  (updates.reverse.findSome? (lastGiven · name)).or
    (lastGiven (entries.map fun e => (fieldName e.1, e.2)) name)

/-- The last update counts first. -/
theorem given_append (entries : List (String × Json)) (updates : List (List (String × Json)))
    (changes : List (String × Json)) (name : String) :
    given entries (updates ++ [changes]) name =
      (lastGiven changes name).or (given entries updates name) := by
  unfold given
  rw [List.reverse_append, List.reverse_singleton, List.singleton_append, List.findSome?_cons]
  cases lastGiven changes name <;> rfl

def settled (component : Component) (entries : List (String × Json))
    (updates : List (List (String × Json))) : Options :=
  ⟨component, component.defaults.map fun f => (f.1, (given entries updates f.1).getD f.2)⟩

/-- The states that a mapping and a sequence of updates lead to. -/
inductive Reached (component : Component) (entries : List (String × Json)) :
    List (List (String × Json)) → Options → Prop
  | made {o : Options} (h : ofMapping component entries = .ok o) : Reached component entries [] o
  | updated {updates : List (List (String × Json))} {o next : Options}
    {changes : List (String × Json)} (h : Reached component entries updates o)
    (hnext : o.update changes = .ok next) : Reached component entries (updates ++ [changes]) next

section

variable {component : Component} {entries : List (String × Json)}
  {updates : List (List (String × Json))} {o : Options}

theorem hasField_of_mem {f : String × Json} (h : f ∈ component.defaults) :
    component.hasField f.1 = true := by
  rw [Component.hasField, List.any_eq_true]
  exact ⟨f, h, beq_self_eq_true _⟩

theorem ofMapping_eq (component : Component) (entries : List (String × Json)) :
    ofMapping component entries = validated (settled component entries []) := by
  have hfields : assignAll component.defaults (knownEntries component entries) =
      (settled component entries []).fields := by
    rw [assignAll_eq]
    apply List.map_congr_left
    intro f hf
    rw [knownEntries, lastGiven_filter (hasField_of_mem hf)]
    rfl
  rw [ofMapping, hfields]
  rfl

theorem update_settled {changes : List (String × Json)}
    (h : ∀ change ∈ changes, component.hasField change.1 = true) :
    (settled component entries updates).update changes =
      validated (settled component entries (updates ++ [changes])) := by
  have hall : (changes.all fun c => component.hasField c.1) = true := List.all_eq_true.2 h
  have hupdate : (settled component entries updates).update changes =
      if (changes.all fun c => component.hasField c.1) = true then
        validated ⟨component, assignAll (settled component entries updates).fields changes⟩
      else .error .wrongType := rfl
  have hfields : assignAll (settled component entries updates).fields changes =
      (settled component entries (updates ++ [changes])).fields := by
    rw [assignAll_eq, settled, List.map_map]
    apply List.map_congr_left
    intro f _
    dsimp only [Function.comp]
    rw [given_append, Option.getD_or]
  rw [hupdate, if_pos hall, hfields]
  rfl

theorem update_of_hasField_eq_false {changes : List (String × Json)} {change : String × Json}
    (hmem : change ∈ changes) (h : o.component.hasField change.1 = false) :
    o.update changes = .error .wrongType := by
  have hall : ¬ (changes.all fun c => o.component.hasField c.1) = true := by
    intro hall
    rw [List.all_eq_true.1 hall change hmem] at h
    exact absurd h (by decide)
  rw [update, if_neg hall]

theorem hasField_of_update {next : Options} {changes : List (String × Json)}
    (h : o.update changes = .ok next) :
    ∀ change ∈ changes, o.component.hasField change.1 = true := by
  intro change hmem
  cases hfield : o.component.hasField change.1 with
  | true => rfl
  | false =>
    rw [update_of_hasField_eq_false hmem hfield] at h
    cases h

theorem eq_of_validated {next : Options} (h : validated o = .ok next) : next = o := by
  unfold validated at h
  split at h
  · split at h
    · cases h
    · exact (Except.ok.inj h).symm
  · exact (Except.ok.inj h).symm

theorem Reached.validated_settled (h : Reached component entries updates o) :
    validated (settled component entries updates) = .ok o := by
  induction h with
  | made h => rwa [ofMapping_eq] at h
  | @updated updates o next changes h hnext ih =>
    -- Checking changes nothing, so what is updated is the settled state itself.
    have ho := eq_of_validated ih
    have hfield : ∀ change ∈ changes, component.hasField change.1 = true := by
      have hfield := hasField_of_update hnext
      rw [ho] at hfield
      exact hfield
    rwa [ho, update_settled hfield] at hnext

theorem Reached.eq_settled (h : Reached component entries updates o) :
    o = settled component entries updates := eq_of_validated h.validated_settled

end

/-! ### Fields -/

theorem nodup_defaults (component : Component) : (component.defaults.map (·.1)).Nodup := by
  cases component <;> decide

theorem hyphen_notMem_of_hasField {component : Component} {name : String}
    (h : component.hasField name = true) : '-' ∉ name.toList := by
  have hnames : ∀ f ∈ component.defaults, '-' ∉ f.1.toList := by
    cases component <;> decide
  rw [Component.hasField, List.any_eq_true] at h
  obtain ⟨f, hf, hname⟩ := h
  rw [← eq_of_beq hname]
  exact hnames f hf

theorem member?_map {fields : List (String × Json)} (hnodup : (fields.map (·.1)).Nodup)
    (value : String × Json → Json) {f : String × Json} (hf : f ∈ fields) :
    Json.member? (fields.map fun f => (f.1, value f)) f.1 = some (value f) := by
  induction fields with
  | nil => exact absurd hf List.not_mem_nil
  | cons first fields ih =>
    rw [List.map_cons, List.nodup_cons] at hnodup
    rcases List.mem_cons.1 hf with rfl | hf
    · simp [Json.member?]
    · have hne : first.1 ≠ f.1 := fun heq => hnodup.1 (heq ▸ List.mem_map_of_mem hf)
      have hrest := ih hnodup.2 hf
      unfold Json.member? at hrest ⊢
      rw [List.map_cons, List.find?_cons_of_neg (by simpa using hne)]
      exact hrest

theorem get_settled (component : Component) (entries : List (String × Json))
    (updates : List (List (String × Json))) {f : String × Json} (hf : f ∈ component.defaults) :
    (settled component entries updates).get f.1 = (given entries updates f.1).getD f.2 := by
  have hvalue := member?_map (nodup_defaults component)
    (fun f => (given entries updates f.1).getD f.2) hf
  rw [get, settled, hvalue, Option.getD_some]

/-! ### Indentations -/

/-- Numbers; booleans count as numbers. -/
inductive IsNumber : Json → Prop
  | bool (b : Bool) : IsNumber (.bool b)
  | int (n : Int) : IsNumber (.int n)
  | float (x : Binary64) : IsNumber (.float x)

inductive IsBelowZero : Json → Prop
  | int {n : Int} (h : n < 0) : IsBelowZero (.int n)
  | float {x : Binary64} (h : x.isNegative = true) : IsBelowZero (.float x)

def IsIndentation (value : Json) : Prop := value = .null ∨ IsNumber value ∧ ¬ IsBelowZero value

theorem indentFailure_of_isBelowZero {value : Json} (h : IsBelowZero value) :
    indentFailure value =
      some (.badValue (some s!"indent must be non-negative, got {String.ofList value.plain}")) := by
  cases h with
  | int h => simp [indentFailure, Json.number?, h]
  | float h => simp [indentFailure, Json.number?, h]

theorem indentFailure_of_not_isNumber {value : Json} (hnull : value ≠ .null)
    (h : ¬ IsNumber value) : indentFailure value = some .wrongType := by
  cases value with
  | null => exact absurd rfl hnull
  | bool b => exact absurd (.bool b) h
  | int n => exact absurd (.int n) h
  | float x => exact absurd (.float x) h
  | str s => rfl
  | arr items => rfl
  | obj members => rfl
  | thing t => rfl

theorem indentFailure_eq_none_iff {value : Json} :
    indentFailure value = none ↔ IsIndentation value := by
  constructor
  · intro h
    by_cases hnull : value = .null
    · exact Or.inl hnull
    by_cases hnumber : IsNumber value
    · refine Or.inr ⟨hnumber, fun hbelow => ?_⟩
      rw [indentFailure_of_isBelowZero hbelow] at h
      cases h
    · rw [indentFailure_of_not_isNumber hnull hnumber] at h
      cases h
  · rintro (rfl | ⟨hnumber, hbelow⟩)
    · rfl
    · cases hnumber with
      | bool b => cases b <;> rfl
      | int n =>
        have hn : ¬ n < 0 := fun hn => hbelow (.int hn)
        simp [indentFailure, Json.number?, hn]
      | float x =>
        have hx : ¬ x.isNegative = true := fun hx => hbelow (.float hx)
        simp [indentFailure, Json.number?, hx]

/-- What becomes of a record of options: it is refused for its indentation if it is meant to have
one, and for nothing else. -/
structure Checks (o : Options) (r : Except Failure Options) : Prop where
  accepted : (o.component = .treeWriter → IsIndentation (o.get "indent")) → r = .ok o
  belowZero : o.component = .treeWriter → IsBelowZero (o.get "indent") →
    ∃ message, r = .error (.badValue (some message))
  mistyped : o.component = .treeWriter → o.get "indent" ≠ .null → ¬ IsNumber (o.get "indent") →
    r = .error .wrongType

theorem validated_of_treeWriter {o : Options} (h : o.component = .treeWriter) :
    validated o = match indentFailure (o.get "indent") with
      | some e => .error e
      | none => .ok o := by
  obtain ⟨component, fields⟩ := o
  cases h
  rfl

theorem checks_validated (o : Options) : Checks o (validated o) := by
  by_cases htree : o.component = .treeWriter
  · rw [validated_of_treeWriter htree]
    refine ⟨fun h => ?_, fun _ h => ?_, fun _ hnull h => ?_⟩
    · rw [indentFailure_eq_none_iff.2 (h htree)]
    · rw [indentFailure_of_isBelowZero h]
      exact ⟨_, rfl⟩
    · rw [indentFailure_of_not_isNumber hnull h]
  · refine ⟨fun _ => ?_, fun h => absurd h htree, fun h => absurd h htree⟩
    unfold validated
    split
    · rename_i h
      exact absurd h htree
    · rfl

theorem isIndentation_of_validated {o next : Options} (h : validated o = .ok next)
    (htree : o.component = .treeWriter) : IsIndentation (o.get "indent") := by
  rw [← indentFailure_eq_none_iff]
  rw [validated_of_treeWriter htree] at h
  cases hfailure : indentFailure (o.get "indent") with
  | none => rfl
  | some e =>
    rw [hfailure] at h
    cases h

/-! ### Every state -/

theorem ofMapping_filter (component : Component) (entries : List (String × Json)) :
    ofMapping component (entries.filter fun e => component.hasField (fieldName e.1)) =
      ofMapping component entries := by
  have hknown : knownEntries component
      (entries.filter fun e => component.hasField (fieldName e.1)) =
        knownEntries component entries := by
    simp only [knownEntries, List.filter_map, List.filter_filter, Function.comp_def, Bool.and_self]
  rw [ofMapping, ofMapping, hknown]

theorem outcome_optionsFrom {members entries : List (String × Json)} {name : String}
    (component : Component) (h : Json.member? members name = some (.obj entries)) :
    (Settings.optionsFrom members name component).outcome =
      (ofMapping component entries,
        (unknownKeys component entries).map (Settings.unknownOption component)) := by
  have hentries : Settings.entriesOf members name = .ok entries := by
    rw [Settings.entriesOf, h]
  rw [Settings.optionsFrom, hentries]
  rfl

/-- What options are in every state that a mapping and updates lead to, what making and updating
them comes to, and what is noted of names that are not known. -/
theorem reached_settles (component : Component) (entries : List (String × Json)) :
    Checks (settled component entries []) (ofMapping component entries) ∧
      ofMapping component (entries.filter fun e => component.hasField (fieldName e.1)) =
        ofMapping component entries ∧
      (∀ members name, Json.member? members name = some (.obj entries) →
        (Settings.optionsFrom members name component).outcome =
          (ofMapping component entries,
            ((entries.map (·.1)).filter fun key => !component.hasField (fieldName key)).map
              (Settings.unknownOption component))) ∧
      ∀ updates o, Reached component entries updates o →
        o = settled component entries updates ∧
          (∀ f ∈ component.defaults,
            o.get f.1 = (given entries updates f.1).getD f.2) ∧
          (component = .treeWriter → IsIndentation (o.get "indent")) ∧
          ∀ changes,
            ((∃ change ∈ changes,
                component.hasField change.1 = false ∨ '-' ∈ change.1.toList) →
              o.update changes = .error .wrongType) ∧
            ((∀ change ∈ changes, component.hasField change.1 = true) →
              Checks (settled component entries (updates ++ [changes])) (o.update changes)) := by
  refine ⟨?_, ofMapping_filter component entries,
    fun members name h => outcome_optionsFrom component h, fun updates o h => ?_⟩
  · rw [ofMapping_eq]
    exact checks_validated _
  · have hvalidated := h.validated_settled
    obtain rfl := h.eq_settled
    refine ⟨rfl, fun f hf => get_settled component entries updates hf,
      isIndentation_of_validated hvalidated, fun changes => ⟨?_, fun hfield => ?_⟩⟩
    · rintro ⟨change, hmem, hunknown⟩
      have hfield : component.hasField change.1 = false := by
        rcases hunknown with hunknown | hhyphen
        · exact hunknown
        · exact Bool.eq_false_iff.2 fun hfield => hyphen_notMem_of_hasField hfield hhyphen
      exact update_of_hasField_eq_false hmem hfield
    · rw [update_settled hfield]
      exact checks_validated _

theorem reached_settles_spellings :
    let entries : List (String × Json) :=
      [("link-target", .str "a"), ("bogus", .int 1), ("link_target", .str "b")]
    let updates : List (List (String × Json)) :=
      [[("link_class", .str "x")], [], [("link_class", .null)]]
    (∃ o, Reached .markdownReader entries updates o ∧ o.get "link_target" = .str "b" ∧
        o.get "link_class" = .null ∧ o.update [("link-class", .str "y")] = .error .wrongType) ∧
      ∃ o, Reached .treeWriter [("indent", .int 4)] [[("indent", .bool true)]] o ∧
        ∃ message, o.update [("indent", .int (-1))] = .error (.badValue (some message)) := by
  intro entries updates
  have hreader : Reached .markdownReader entries updates
      (settled .markdownReader entries updates) :=
    .updated (.updated (.updated (.made rfl) rfl) rfl) rfl
  have hwriter : Reached .treeWriter [("indent", .int 4)] [[("indent", .bool true)]]
      (settled .treeWriter [("indent", .int 4)] [[("indent", .bool true)]]) :=
    .updated (.made rfl) rfl
  obtain ⟨-, hget, -, hread⟩ := (reached_settles .markdownReader entries).2.2.2 _ _ hreader
  obtain ⟨-, -, -, hwrite⟩ := (reached_settles .treeWriter _).2.2.2 _ _ hwriter
  constructor
  · refine ⟨_, hreader, ?_, ?_, ?_⟩
    · exact hget ("link_target", .null) (List.mem_cons_self ..)
    · exact hget ("link_class", .null) (List.mem_cons_of_mem _ (List.mem_cons_self ..))
    · exact (hread _).1 ⟨_, List.mem_cons_self .., Or.inr (by decide)⟩
  · have hfield : ∀ change ∈ [("indent", Json.int (-1))],
        Component.treeWriter.hasField change.1 = true := by
      rintro change hchange
      rw [List.mem_singleton.1 hchange]
      rfl
    exact ⟨_, hwriter, ((hwrite _).2 hfield).belowZero rfl (.int (by decide))⟩

end Vitae.Options
