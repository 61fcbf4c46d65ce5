import Vitae.Proofs.Results
import Vitae.Settings

/-!
# Which configs give settings

A config is refused exactly if something stands where a table is meant or the underlining of links
is no boolean, and whoever refuses it names what is wrong. The options for a component come from its
section and from nothing else. Unknown sections are noted, one after the other, and otherwise as
good as missing.
-/

namespace Vitae

/-! ### Noting -/

namespace Log

variable {α β : Type} {x : Noted α} {r : Except Failure α} {records : List Record}

/-- The computation has this result and notes these records, behind whatever was noted before; only
where it fails some of them may be missing at the end. -/
def Leaves (x : Noted α) (r : Except Failure α) (records : List Record) : Prop :=
  ∃ noted, noted <+: records ∧ (∀ a, r = .ok a → noted = records) ∧
    ∀ before, x.run.run before = (r, before ++ noted)

namespace Leaves

theorem outcome_fst (h : Leaves x r records) : x.outcome.1 = r := by
  obtain ⟨noted, -, -, hrun⟩ := h
  exact congrArg Prod.fst (hrun [])

theorem outcome_snd (h : Leaves x r records) : x.outcome.2 <+: records := by
  obtain ⟨noted, hprefix, -, hrun⟩ := h
  have hnoted : x.outcome.2 = [] ++ noted := congrArg Prod.snd (hrun [])
  rwa [hnoted, List.nil_append]

theorem outcome_snd_of_ok {a : α} (h : Leaves x (.ok a) records) : x.outcome.2 = records := by
  obtain ⟨noted, -, hall, hrun⟩ := h
  have hnoted : x.outcome.2 = [] ++ noted := congrArg Prod.snd (hrun [])
  rw [hnoted, List.nil_append, hall a rfl]

theorem pure (a : α) : Leaves (Pure.pure a) (.ok a) [] := by
  refine ⟨[], List.prefix_rfl, fun _ _ => rfl, fun before => ?_⟩
  rw [List.append_nil]
  rfl

theorem ofExcept (r : Except Failure α) : Leaves (liftM r) r [] := by
  refine ⟨[], List.prefix_rfl, fun _ _ => rfl, fun before => ?_⟩
  rw [List.append_nil]
  rfl

theorem note (records : List Record) : Leaves (note records) (.ok ()) records :=
  ⟨records, List.prefix_rfl, fun _ _ => rfl, fun _ => rfl⟩

theorem bind (h : Leaves x r records) {f : α → Noted β} {g : α → Except Failure β}
    {more : List Record} (hf : ∀ a, r = .ok a → Leaves (f a) (g a) more) :
    Leaves (x >>= f) (r >>= g) (records ++ more) := by
  obtain ⟨noted, hprefix, hall, hrun⟩ := h
  cases r with
  | error e =>
    refine ⟨noted, hprefix.trans (List.prefix_append _ _), nofun, fun before => ?_⟩
    rw [run_bind, hrun]
    rfl
  | ok a =>
    obtain rfl := hall a rfl
    obtain ⟨further, hfurther, hfurtherAll, hgo⟩ := hf a rfl
    refine ⟨noted ++ further, (List.prefix_append_right_inj _).2 hfurther, ?_, fun before => ?_⟩
    · intro b hb
      rw [hfurtherAll b hb]
    · rw [run_bind, hrun]
      dsimp only
      rw [hgo, List.append_assoc]
      rfl

/-- What is noted first stands in front of the rest, and changes nothing else. -/
theorem outcome_note_bind (h : Leaves x r records) (first : List Record) :
    (Log.note first >>= fun _ => x).outcome = (x.outcome.1, first ++ x.outcome.2) := by
  obtain ⟨noted, -, -, hrun⟩ := h
  have houtcome : x.outcome = (r, noted) := hrun []
  have hbind : (Log.note first >>= fun _ => x).outcome = x.run.run first := rfl
  rw [houtcome, hbind, hrun]

end Leaves

end Log

namespace Settings

/-! ### Sections -/

/-- The entries of the table under a name; where there is no table there are none. -/
def entriesUnder (members : List (String × Json)) (name : String) : List (String × Json) :=
  match Json.member? members name with
  | some (.obj entries) => entries
  | _ => []

/-- Is what stands under the name, if anything does, a table or something that counts as false? -/
def HoldsTable (members : List (String × Json)) (name : String) : Prop :=
  ∀ value, Json.member? members name = some value →
    value.truthy = false ∨ ∃ entries, value = .obj entries

theorem entriesOf_eq_ok_iff {members entries : List (String × Json)} {name : String} :
    entriesOf members name = .ok entries ↔
      HoldsTable members name ∧ entriesUnder members name = entries := by
  unfold entriesOf HoldsTable entriesUnder
  cases hvalue : Json.member? members name with
  | none => simp
  | some value =>
    cases value with
    | obj inner => simp
    | _ =>
      dsimp only
      split
      · rename_i htrue
        simp [htrue]
      · rename_i hfalse
        simp [hfalse]

/-- Is what stands under the name, if anything does, a table or null? -/
def HoldsMapping (members : List (String × Json)) (name : String) : Prop :=
  ∀ value, Json.member? members name = some value → value = .null ∨ ∃ entries, value = .obj entries

theorem section?_eq_ok_iff {members entries : List (String × Json)} {name : String} :
    Context.section? members name = .ok entries ↔
      HoldsMapping members name ∧ entriesUnder members name = entries := by
  unfold Context.section? HoldsMapping entriesUnder
  cases hvalue : Json.member? members name with
  | none => simp
  | some value => cases value <;> simp

def IsFlag (value? : Option Json) : Prop :=
  ∀ value, value? = some value → value = .null ∨ ∃ b, value = .bool b

theorem underlineOf_eq_ok_iff {value? : Option Json} {b : Bool} :
    Context.underlineOf value? = .ok b ↔ IsFlag value? ∧ (b = true ↔ value? = some (.bool true)) := by
  unfold IsFlag
  cases value? with
  | none => cases b <;> simp [Context.underlineOf]
  | some value => cases value <;> cases b <;> simp [Context.underlineOf]

theorem exists_underlineOf {value? : Option Json} (h : IsFlag value?) :
    ∃ b, Context.underlineOf value? = .ok b := by
  cases value? with
  | none => exact ⟨_, rfl⟩
  | some value =>
    rcases h value rfl with rfl | ⟨b, rfl⟩
    · exact ⟨_, rfl⟩
    · exact ⟨b, rfl⟩

/-- What a config says on the underlining of links. -/
def underlining? (members : List (String × Json)) : Option Json :=
  Json.member? (entriesUnder (entriesUnder members "typography") "links") "underline"

theorem ofMembers_eq_ok_iff {entries : List (String × Json)} {context : Context} :
    Context.ofMembers [("typography", .obj entries)] = .ok context ↔
      HoldsMapping entries "links" ∧
        Context.underlineOf (Json.member? (entriesUnder entries "links") "underline") =
          .ok context.linkUnderline := by
  have hsection : Context.section? [("typography", .obj entries)] "typography" = .ok entries := rfl
  unfold Context.ofMembers
  constructor
  · intro h
    obtain ⟨typography, htypography, hrest⟩ := bind_eq_ok_iff.1 h
    obtain ⟨links, hlinks, hlast⟩ := bind_eq_ok_iff.1 hrest
    obtain ⟨underline, hunderline, hresult⟩ := bind_eq_ok_iff.1 hlast
    cases hsection.symm.trans htypography
    obtain ⟨hmapping, rfl⟩ := section?_eq_ok_iff.1 hlinks
    cases hresult
    exact ⟨hmapping, hunderline⟩
  · rintro ⟨hmapping, hunderline⟩
    have hlinks := section?_eq_ok_iff.2 ⟨hmapping, rfl⟩
    refine bind_eq_ok_iff.2 ⟨_, hsection, bind_eq_ok_iff.2 ⟨_, hlinks, ?_⟩⟩
    exact bind_eq_ok_iff.2 ⟨_, hunderline, rfl⟩

theorem contextFrom_eq_ok_iff {members : List (String × Json)} {linkUnderline : Bool}
    {context : Context} :
    contextFrom members linkUnderline = .ok context ↔
      (HoldsTable members "typography" ∧ HoldsMapping (entriesUnder members "typography") "links" ∧
        IsFlag (underlining? members)) ∧
      (context.linkUnderline = true ↔
        linkUnderline = true ∨ underlining? members = some (.bool true)) := by
  constructor
  · intro h
    obtain ⟨entries, hentries, hrest⟩ := bind_eq_ok_iff.1 h
    obtain ⟨found, hfound, hresult⟩ := bind_eq_ok_iff.1 hrest
    obtain ⟨htable, rfl⟩ := entriesOf_eq_ok_iff.1 hentries
    obtain ⟨hlinks, hunderline⟩ := ofMembers_eq_ok_iff.1 hfound
    obtain ⟨hflag, htrue⟩ := underlineOf_eq_ok_iff.1 hunderline
    refine ⟨⟨htable, hlinks, hflag⟩, ?_⟩
    obtain rfl := Except.ok.inj hresult
    cases linkUnderline with
    | true => simp
    | false => simpa [underlining?] using htrue
  · rintro ⟨⟨htable, hlinks, hflag⟩, htrue⟩
    obtain ⟨b, hunderline⟩ := exists_underlineOf hflag
    have hcontext : (⟨linkUnderline || b⟩ : Context) = context := by
      obtain ⟨underline⟩ := context
      rw [Context.mk.injEq, Bool.eq_iff_iff, Bool.or_eq_true, htrue,
        (underlineOf_eq_ok_iff.1 hunderline).2]
    have hentries := entriesOf_eq_ok_iff.2 ⟨htable, rfl⟩
    have hfound : Context.ofMembers [("typography", .obj (entriesUnder members "typography"))] =
        .ok ⟨b⟩ := ofMembers_eq_ok_iff.2 ⟨hlinks, hunderline⟩
    refine bind_eq_ok_iff.2 ⟨_, hentries, bind_eq_ok_iff.2 ⟨_, hfound, ?_⟩⟩
    rw [← hcontext]
    cases linkUnderline <;> rfl

/-! ### Options -/

theorem ofMapping_eq_ok {component : Component} (h : component ≠ .treeWriter)
    (entries : List (String × Json)) :
    ∃ o, Options.ofMapping component entries = .ok o ∧ o.component = component := by
  unfold Options.ofMapping Options.validated
  split
  · rename_i htree
    exact absurd htree h
  · exact ⟨_, rfl, rfl⟩

/-- The options of a section, without the warnings. -/
def optionsOf (members : List (String × Json)) (name : String) (component : Component) :
    Except Failure Options := do
  let entries ← entriesOf members name
  Options.ofMapping component entries

theorem optionsOf_eq_ok_iff {members : List (String × Json)} {name : String} {component : Component}
    {o : Options} :
    optionsOf members name component = .ok o ↔
      HoldsTable members name ∧ Options.ofMapping component (entriesUnder members name) = .ok o := by
  unfold optionsOf
  rw [bind_eq_ok_iff]
  constructor
  · rintro ⟨entries, hentries, hmapping⟩
    obtain ⟨htable, rfl⟩ := entriesOf_eq_ok_iff.1 hentries
    exact ⟨htable, hmapping⟩
  · rintro ⟨htable, hmapping⟩
    exact ⟨_, entriesOf_eq_ok_iff.2 ⟨htable, rfl⟩, hmapping⟩

/-- The sections that options come from, with the components that they are for. -/
def optionSections : List (String × Component) :=
  [("markdown", .markdownReader), ("tree", .treeReader), ("html", .htmlWriter),
    ("latex", .latexWriter)]

theorem forall_mem_sections_iff {p : String → Prop} :
    (∀ name ∈ sections, p name) ↔
      p "typography" ∧ p "html" ∧ p "latex" ∧ p "markdown" ∧ p "tree" := by
  simp [sections]

theorem forall_mem_optionSections_iff {p : String × Component → Prop} :
    (∀ part ∈ optionSections, p part) ↔
      p ("markdown", .markdownReader) ∧ p ("tree", .treeReader) ∧ p ("html", .htmlWriter) ∧
        p ("latex", .latexWriter) := by
  simp [optionSections]

/-- The options that settings have for a component; without any they are its defaults. -/
def optionsFor (settings : Settings) : Component → Options
  | .markdownReader => settings.markdown
  | .treeReader => settings.tree
  | .htmlWriter => settings.html
  | .latexWriter => settings.latex
  | component => .default component

/-! ### Settings -/

def ofMembers (members : List (String × Json)) (linkUnderline : Bool) : Except Failure Settings := do
  let context ← contextFrom members linkUnderline
  let markdown ← optionsOf members "markdown" .markdownReader
  let tree ← optionsOf members "tree" .treeReader
  let html ← optionsOf members "html" .htmlWriter
  let latex ← optionsOf members "latex" .latexWriter
  return { context, markdown, tree, html, latex }

/-- A config of tables, or of what may stand in their places, with a boolean for the underlining of
links if there is anything. -/
structure IsSound (members : List (String × Json)) : Prop where
  tables : ∀ name ∈ sections, HoldsTable members name
  links : HoldsMapping (entriesUnder members "typography") "links"
  underlining : IsFlag (underlining? members)

/-- The settings that a config and a flag stand for. -/
structure Reflects (members : List (String × Json)) (linkUnderline : Bool) (settings : Settings) :
    Prop where
  underlines : settings.context.linkUnderline = true ↔
    linkUnderline = true ∨ underlining? members = some (.bool true)
  options : ∀ part ∈ optionSections,
    Options.ofMapping part.2 (entriesUnder members part.1) = .ok (settings.optionsFor part.2)

theorem ofMembers_eq_ok_iff_reflects {members : List (String × Json)} {linkUnderline : Bool}
    {settings : Settings} :
    ofMembers members linkUnderline = .ok settings ↔
      IsSound members ∧ Reflects members linkUnderline settings := by
  constructor
  · intro h
    obtain ⟨context, hcontext, hrest⟩ := bind_eq_ok_iff.1 h
    obtain ⟨markdown, hmarkdown, hrest⟩ := bind_eq_ok_iff.1 hrest
    obtain ⟨tree, htree, hrest⟩ := bind_eq_ok_iff.1 hrest
    obtain ⟨html, hhtml, hrest⟩ := bind_eq_ok_iff.1 hrest
    obtain ⟨latex, hlatex, hresult⟩ := bind_eq_ok_iff.1 hrest
    cases hresult
    obtain ⟨⟨htypography, hlinks, hflag⟩, hunderlines⟩ := contextFrom_eq_ok_iff.1 hcontext
    obtain ⟨hmarkdownTable, hmarkdown⟩ := optionsOf_eq_ok_iff.1 hmarkdown
    obtain ⟨htreeTable, htree⟩ := optionsOf_eq_ok_iff.1 htree
    obtain ⟨hhtmlTable, hhtml⟩ := optionsOf_eq_ok_iff.1 hhtml
    obtain ⟨hlatexTable, hlatex⟩ := optionsOf_eq_ok_iff.1 hlatex
    have htables := forall_mem_sections_iff.2
      ⟨htypography, hhtmlTable, hlatexTable, hmarkdownTable, htreeTable⟩
    exact ⟨⟨htables, hlinks, hflag⟩, hunderlines,
      forall_mem_optionSections_iff.2 ⟨hmarkdown, htree, hhtml, hlatex⟩⟩
  · rintro ⟨⟨htables, hlinks, hflag⟩, hunderlines, hoptions⟩
    obtain ⟨htypography, hhtmlTable, hlatexTable, hmarkdownTable, htreeTable⟩ :=
      forall_mem_sections_iff.1 htables
    obtain ⟨hmarkdown, htree, hhtml, hlatex⟩ := forall_mem_optionSections_iff.1 hoptions
    have hcontext := contextFrom_eq_ok_iff.2 ⟨⟨htypography, hlinks, hflag⟩, hunderlines⟩
    refine bind_eq_ok_iff.2 ⟨_, hcontext, ?_⟩
    refine bind_eq_ok_iff.2 ⟨_, optionsOf_eq_ok_iff.2 ⟨hmarkdownTable, hmarkdown⟩, ?_⟩
    refine bind_eq_ok_iff.2 ⟨_, optionsOf_eq_ok_iff.2 ⟨htreeTable, htree⟩, ?_⟩
    refine bind_eq_ok_iff.2 ⟨_, optionsOf_eq_ok_iff.2 ⟨hhtmlTable, hhtml⟩, ?_⟩
    exact bind_eq_ok_iff.2 ⟨_, optionsOf_eq_ok_iff.2 ⟨hlatexTable, hlatex⟩, rfl⟩

/-- Nothing that a section can hold is refused as an option. -/
theorem exists_reflects (members : List (String × Json)) (linkUnderline : Bool) :
    ∃ settings, Reflects members linkUnderline settings := by
  have hoptions (name : String) {component : Component} (h : component ≠ .treeWriter) :
      ∃ o, Options.ofMapping component (entriesUnder members name) = .ok o :=
    (ofMapping_eq_ok h (entriesUnder members name)).imp fun _ ho => ho.1
  have hmarkdown : Component.markdownReader ≠ .treeWriter := by decide
  have htree : Component.treeReader ≠ .treeWriter := by decide
  have hhtml : Component.htmlWriter ≠ .treeWriter := by decide
  have hlatex : Component.latexWriter ≠ .treeWriter := by decide
  obtain ⟨markdown, hmarkdown⟩ := hoptions "markdown" hmarkdown
  obtain ⟨tree, htree⟩ := hoptions "tree" htree
  obtain ⟨html, hhtml⟩ := hoptions "html" hhtml
  obtain ⟨latex, hlatex⟩ := hoptions "latex" hlatex
  have hunderline : ∃ b : Bool, b = true ↔
      linkUnderline = true ∨ underlining? members = some (.bool true) := by
    classical exact ⟨_, decide_eq_true_iff⟩
  obtain ⟨b, hb⟩ := hunderline
  exact ⟨⟨⟨b⟩, markdown, tree, html, latex⟩, hb,
    forall_mem_optionSections_iff.2 ⟨hmarkdown, htree, hhtml, hlatex⟩⟩

theorem exists_ofMembers_iff {members : List (String × Json)} {linkUnderline : Bool} :
    (∃ settings, ofMembers members linkUnderline = .ok settings) ↔ IsSound members := by
  simp only [ofMembers_eq_ok_iff_reflects, exists_and_left, exists_reflects, and_true]

/-! ### What is wrong -/

/-- Why a config is refused, in the words of the refusal. -/
inductive Flaw (members : List (String × Json)) : Failure → Prop
  | table {name : String} {value : Json} (hname : name ∈ sections)
    (h : Json.member? members name = some value) (htrue : value.truthy = true)
    (hvalue : ∀ entries, value ≠ .obj entries) :
    Flaw members (.validation s!"Config section '{name}' must be a table" (some name) none)
  | links {value : Json} (h : Json.member? (entriesUnder members "typography") "links" = some value)
    (hnull : value ≠ .null) (hvalue : ∀ entries, value ≠ .obj entries) :
    Flaw members
      (.validation s!"'links' must be a mapping, got {value.typeName}" (some "links") none)
  | underline {value : Json} (h : underlining? members = some value) (hnull : value ≠ .null)
    (hvalue : ∀ b, value ≠ .bool b) :
    Flaw members (.validation s!"'underline' must be true or false, got {value.displayString}"
      (some "underline") none)

variable {members : List (String × Json)} {linkUnderline : Bool} {e : Failure}

theorem Flaw.eq_validation (h : Flaw members e) :
    ∃ message name, e = .validation message (some name) none := by
  cases h <;> exact ⟨_, _, rfl⟩

theorem flaw_of_entriesOf {name : String} (hname : name ∈ sections)
    (h : entriesOf members name = .error e) : Flaw members e := by
  unfold entriesOf at h
  split at h
  · cases h
  · cases h
  · rename_i value hobj hvalue
    split at h
    · rename_i htrue
      cases h
      exact .table hname hvalue htrue hobj
    · cases h

theorem flaw_of_section? (h : Context.section? (entriesUnder members "typography") "links" = .error e) :
    Flaw members e := by
  unfold Context.section? at h
  split at h
  · cases h
  · cases h
  · cases h
  · rename_i value hnull hobj hvalue
    cases h
    exact .links hvalue hnull hobj

theorem flaw_of_underlineOf (h : Context.underlineOf (underlining? members) = .error e) :
    Flaw members e := by
  cases hvalue : underlining? members with
  | none =>
    rw [hvalue] at h
    cases h
  | some value =>
    rw [hvalue] at h
    cases value with
    | null => cases h
    | bool b => cases h
    | _ =>
      cases h
      exact .underline hvalue nofun nofun

theorem flaw_of_contextFrom (h : contextFrom members linkUnderline = .error e) :
    Flaw members e := by
  rcases bind_eq_error_iff.1 h with hentries | ⟨entries, hentries, hrest⟩
  · exact flaw_of_entriesOf (by decide) hentries
  obtain ⟨-, rfl⟩ := entriesOf_eq_ok_iff.1 hentries
  rcases bind_eq_error_iff.1 hrest with hcontext | ⟨context, hcontext, hresult⟩
  · rcases bind_eq_error_iff.1 hcontext with htypography | ⟨typography, htypography, hlinks⟩
    · cases htypography
    cases htypography
    rcases bind_eq_error_iff.1 hlinks with hlinks | ⟨links, hlinks, hunderline⟩
    · exact flaw_of_section? hlinks
    obtain ⟨-, rfl⟩ := section?_eq_ok_iff.1 hlinks
    rcases bind_eq_error_iff.1 hunderline with hunderline | ⟨b, -, hresult⟩
    · exact flaw_of_underlineOf hunderline
    · cases hresult
  · cases hresult

theorem flaw_of_optionsOf {name : String} {component : Component} (hname : name ∈ sections)
    (hcomponent : component ≠ .treeWriter) (h : optionsOf members name component = .error e) :
    Flaw members e := by
  rcases bind_eq_error_iff.1 h with hentries | ⟨entries, -, hmapping⟩
  · exact flaw_of_entriesOf hname hentries
  · obtain ⟨o, ho, -⟩ := ofMapping_eq_ok hcomponent entries
    rw [ho] at hmapping
    cases hmapping

theorem flaw_of_ofMembers (h : ofMembers members linkUnderline = .error e) : Flaw members e := by
  rcases bind_eq_error_iff.1 h with hcontext | ⟨context, -, h⟩
  · exact flaw_of_contextFrom hcontext
  rcases bind_eq_error_iff.1 h with hmarkdown | ⟨markdown, -, h⟩
  · exact flaw_of_optionsOf (by decide) (by decide) hmarkdown
  rcases bind_eq_error_iff.1 h with htree | ⟨tree, -, h⟩
  · exact flaw_of_optionsOf (by decide) (by decide) htree
  rcases bind_eq_error_iff.1 h with hhtml | ⟨html, -, h⟩
  · exact flaw_of_optionsOf (by decide) (by decide) hhtml
  rcases bind_eq_error_iff.1 h with hlatex | ⟨latex, -, h⟩
  · exact flaw_of_optionsOf (by decide) (by decide) hlatex
  · cases h

/-! ### Warnings -/

/-- The warnings about options that a section has and its component does not. -/
def optionWarnings (members : List (String × Json)) (part : String × Component) :
    List Log.Record :=
  (Options.unknownKeys part.2 (entriesUnder members part.1)).map (unknownOption part.2)

theorem leaves_optionsFrom (members : List (String × Json)) (name : String)
    (component : Component) :
    Log.Leaves (optionsFrom members name component) (optionsOf members name component)
      (optionWarnings members (name, component)) := by
  rw [← List.nil_append (optionWarnings _ _)]
  refine (Log.Leaves.ofExcept _).bind fun entries hentries => ?_
  obtain ⟨-, rfl⟩ := entriesOf_eq_ok_iff.1 hentries
  rw [← List.append_nil (optionWarnings _ _)]
  exact (Log.Leaves.note _).bind fun _ _ => .ofExcept _

/-- The work on a config behind the look at the names of its sections. -/
def assembled (members : List (String × Json)) (linkUnderline : Bool) : Log.Noted Settings := do
  let context ← contextFrom members linkUnderline
  let markdown ← optionsFrom members "markdown" .markdownReader
  let tree ← optionsFrom members "tree" .treeReader
  let html ← optionsFrom members "html" .htmlWriter
  let latex ← optionsFrom members "latex" .latexWriter
  return { context, markdown, tree, html, latex }

theorem leaves_assembled (members : List (String × Json)) (linkUnderline : Bool) :
    Log.Leaves (assembled members linkUnderline) (ofMembers members linkUnderline)
      (optionSections.flatMap (optionWarnings members)) := by
  have hrecords : optionSections.flatMap (optionWarnings members) =
      [] ++ (optionWarnings members ("markdown", .markdownReader) ++
        (optionWarnings members ("tree", .treeReader) ++
          (optionWarnings members ("html", .htmlWriter) ++
            (optionWarnings members ("latex", .latexWriter) ++ [])))) := rfl
  rw [hrecords]
  refine (Log.Leaves.ofExcept _).bind fun context _ => ?_
  refine (leaves_optionsFrom members _ _).bind fun markdown _ => ?_
  refine (leaves_optionsFrom members _ _).bind fun tree _ => ?_
  refine (leaves_optionsFrom members _ _).bind fun html _ => ?_
  refine (leaves_optionsFrom members _ _).bind fun latex _ => ?_
  exact .pure _

theorem leaves_build (members : List (String × Json)) (linkUnderline : Bool) :
    Log.Leaves (build members linkUnderline) (ofMembers members linkUnderline)
      ((unknownSections members).map unknownSection ++
        optionSections.flatMap (optionWarnings members)) :=
  (Log.Leaves.note _).bind fun _ _ => leaves_assembled members linkUnderline

/-! ### What a section is for -/

/-- A config without its unknown sections. -/
def knownMembers (members : List (String × Json)) : List (String × Json) :=
  members.filter fun m => sections.contains m.1

theorem member?_knownMembers (members : List (String × Json)) {name : String}
    (hname : name ∈ sections) :
    Json.member? (knownMembers members) name = Json.member? members name := by
  have hkey : ∀ m : String × Json,
      (sections.contains m.1 = true ∧ (m.1 == name) = true) ↔ (m.1 == name) = true := by
    intro m
    rw [and_iff_right_iff_imp, beq_iff_eq, List.contains_iff_mem]
    rintro rfl
    exact hname
  simp only [Json.member?, knownMembers, List.find?_filter, hkey, Bool.decide_eq_true]

theorem entriesOf_knownMembers (members : List (String × Json)) {name : String}
    (hname : name ∈ sections) : entriesOf (knownMembers members) name = entriesOf members name := by
  simp only [entriesOf, member?_knownMembers members hname]

theorem assembled_knownMembers (members : List (String × Json)) (linkUnderline : Bool) :
    assembled (knownMembers members) linkUnderline = assembled members linkUnderline := by
  simp (disch := decide) only [assembled, contextFrom, optionsFrom, entriesOf_knownMembers]

theorem unknownSections_knownMembers (members : List (String × Json)) :
    unknownSections (knownMembers members) = [] := by
  simp only [unknownSections, knownMembers, List.filter_eq_nil_iff, List.mem_map, List.mem_filter,
    Bool.not_eq_true', Bool.not_eq_false]
  rintro _ ⟨m, ⟨-, hknown⟩, rfl⟩
  exact hknown

/-- Unknown sections are noted, and that is all. -/
theorem outcome_build (members : List (String × Json)) (linkUnderline : Bool) :
    (build members linkUnderline).outcome =
      ((build (knownMembers members) linkUnderline).outcome.1,
        (unknownSections members).map unknownSection ++
          (build (knownMembers members) linkUnderline).outcome.2) := by
  have hall : ∀ members, (build members linkUnderline).outcome =
      ((assembled members linkUnderline).outcome.1,
        (unknownSections members).map unknownSection ++
          (assembled members linkUnderline).outcome.2) := fun members =>
    (leaves_assembled members linkUnderline).outcome_note_bind _
  rw [hall members, hall (knownMembers members), unknownSections_knownMembers,
    assembled_knownMembers]
  rfl

theorem entriesUnder_congr {members other : List (String × Json)} {name : String}
    (h : Json.member? other name = Json.member? members name) :
    entriesUnder other name = entriesUnder members name := by
  rw [entriesUnder, h]
  rfl

/-- The options for a component depend on its section alone. -/
theorem Reflects.optionsFor_eq {members other : List (String × Json)} {flag otherFlag : Bool}
    {settings otherSettings : Settings} (h : Reflects members flag settings)
    (hother : Reflects other otherFlag otherSettings) {part : String × Component}
    (hpart : part ∈ optionSections)
    (hsame : Json.member? other part.1 = Json.member? members part.1) :
    otherSettings.optionsFor part.2 = settings.optionsFor part.2 := by
  have hmapping := hother.options part hpart
  rw [entriesUnder_congr hsame, h.options part hpart] at hmapping
  exact (Except.ok.inj hmapping).symm

/-- Which configs give settings, which settings they give, and what is noted. A missing config is
an empty one. -/
theorem build_settles (config : Option (List (String × Json))) (linkUnderline : Bool) :
    let members := config.getD []
    let built := (build members linkUnderline).outcome
    ((∃ settings, built.1 = .ok settings) ↔ IsSound members) ∧
      (∀ e, built.1 = .error e →
        Flaw members e ∧ ∃ message name, e = .validation message (some name) none) ∧
      (∀ settings, built.1 = .ok settings →
        Reflects members linkUnderline settings ∧
          (∀ other flag otherSettings, (build other flag).outcome.1 = .ok otherSettings →
            ∀ part ∈ optionSections, Json.member? other part.1 = Json.member? members part.1 →
              otherSettings.optionsFor part.2 = settings.optionsFor part.2) ∧
          built.2 = (unknownSections members).map unknownSection ++
            optionSections.flatMap (optionWarnings members)) ∧
      built.2 <+: (unknownSections members).map unknownSection ++
        optionSections.flatMap (optionWarnings members) ∧
      built = ((build (knownMembers members) linkUnderline).outcome.1,
        (unknownSections members).map unknownSection ++
          (build (knownMembers members) linkUnderline).outcome.2) := by
  dsimp only
  generalize config.getD [] = members
  have hleaves := leaves_build members linkUnderline
  rw [hleaves.outcome_fst]
  refine ⟨exists_ofMembers_iff, fun e he => ?_, fun settings hsettings => ⟨?_, ?_, ?_⟩,
    hleaves.outcome_snd, outcome_build members linkUnderline⟩
  · exact ⟨flaw_of_ofMembers he, (flaw_of_ofMembers he).eq_validation⟩
  · exact (ofMembers_eq_ok_iff_reflects.1 hsettings).2
  · intro other flag otherSettings hother part hpart hsame
    rw [(leaves_build other flag).outcome_fst] at hother
    exact (ofMembers_eq_ok_iff_reflects.1 hsettings).2.optionsFor_eq
      (ofMembers_eq_ok_iff_reflects.1 hother).2 hpart hsame
  · rw [hsettings] at hleaves
    exact hleaves.outcome_snd_of_ok

end Settings

end Vitae
