import Vitae.Proofs.CommandLine.Stages
import Vitae.Proofs.Compile
import Vitae.Proofs.Rendering
import Vitae.Proofs.Settings

/-!
# How stages fail

For each stage before the output: in which cases it fails, and with which exit code.
-/

namespace Vitae

/-! ### Loading a config -/

namespace Config

/-- Is a document nested too deeply, or has it an integer of too many digits? -/
def IsBeyondLimits (format : Format) (text : String) : Prop :=
  format = .json ∧
    (Json.read (String.ofList (Text.normalizeBreaks text.toList)) = .error .tooDeep ∨
      Json.read (String.ofList (Text.normalizeBreaks text.toList)) = .error .tooManyDigits)

/-- Loading the config at a path fails with an exit code. -/
inductive LoadFails (yaml : String → Option Json) (files : Files) (path : Path) : Nat → Prop
  | missing (h : files.isFile path ≠ .ok true) : LoadFails yaml files path 4
  | unsupported (h : files.isFile path = .ok true) (hformat : formatOf? path = none) :
    LoadFails yaml files path 3
  | unreadable {format : Format} (h : files.isFile path = .ok true)
    (hformat : formatOf? path = some format) (hread : ∀ content, files.read path ≠ .ok content) :
    LoadFails yaml files path 4
  | notText {content : ByteArray} {format : Format} (h : files.read path = .ok content)
    (hformat : formatOf? path = some format) (htext : String.fromUTF8? content = none) :
    LoadFails yaml files path 1
  | beyondLimits {content : ByteArray} {format : Format} {text : String}
    (h : files.read path = .ok content) (hformat : formatOf? path = some format)
    (htext : String.fromUTF8? content = some text) (hbeyond : IsBeyondLimits format text) :
    LoadFails yaml files path 1
  | unparsable {content : ByteArray} {format : Format} {text : String}
    (h : files.read path = .ok content) (hformat : formatOf? path = some format)
    (htext : String.fromUTF8? content = some text) (hwithin : ¬ IsBeyondLimits format text)
    (hparse : ∀ value, parse yaml format path.text content Json.standIn ≠ .ok value) :
    LoadFails yaml files path 3
  | noTable {content : ByteArray} {format : Format} {value : Json}
    (h : files.read path = .ok content) (hformat : formatOf? path = some format)
    (hparse : parse yaml format path.text content Json.standIn = .ok value)
    (hroot : ∀ members, value ≠ .obj members) : LoadFails yaml files path 3

section

variable {yaml : String → Option Json} {files : Files} {path : Path} {content : ByteArray}
  {format : Format} {text : String} {half : Char} {code : Nat} {α : Type}

theorem lineTextOf_bind_eq (htext : String.fromUTF8? content = some text)
    (f : String → Except Failure α) :
    (lineTextOf content >>= f) = f (String.ofList (Text.normalizeBreaks text.toList)) := by
  simp only [lineTextOf, textOf, htext]
  rfl

theorem lineTextOf_bind_eq_error (htext : String.fromUTF8? content = none)
    (f : String → Except Failure α) : (lineTextOf content >>= f) = .error .badText := by
  simp only [lineTextOf, textOf, htext]
  rfl

theorem textOf_bind_eq (htext : String.fromUTF8? content = some text)
    (f : String → Except Failure α) : (textOf content >>= f) = f text := by
  simp only [textOf, htext]
  rfl

theorem parse_of_notText (format : Format) (path : String)
    (htext : String.fromUTF8? content = none) :
    parse yaml format path content half = .error .badText := by
  cases format with
  | json => exact lineTextOf_bind_eq_error htext _
  | toml =>
    simp only [parse, textOf, htext]
    rfl
  | yaml => exact lineTextOf_bind_eq_error htext _

theorem failsWith_parse_of_isBeyondLimits (path : String)
    (htext : String.fromUTF8? content = some text) (hbeyond : IsBeyondLimits format text) :
    FailsWith (parse yaml format path content Json.standIn) 1 := by
  obtain ⟨rfl, hread⟩ := hbeyond
  rw [parse, lineTextOf_bind_eq htext, parseJson]
  rcases hread with hread | hread
  · rw [hread]
    exact failsWith_error_iff.2 rfl
  · rw [hread]
    exact failsWith_error_iff.2 rfl

theorem failsOnlyWith_parse (path : String) (htext : String.fromUTF8? content = some text)
    (hwithin : ¬ IsBeyondLimits format text) :
    FailsOnlyWith (parse yaml format path content Json.standIn) 3 := by
  cases format with
  | json =>
    rw [parse, lineTextOf_bind_eq htext, parseJson]
    cases hread : Json.read (String.ofList (Text.normalizeBreaks text.toList)) with
    | ok value => exact .ok value
    | error e =>
      cases e with
      | flaw what line column offset => exact .error rfl
      | tooDeep => exact absurd ⟨rfl, Or.inl hread⟩ hwithin
      | tooManyDigits => exact absurd ⟨rfl, Or.inr hread⟩ hwithin
  | toml =>
    rw [parse, textOf_bind_eq htext, parseToml]
    cases Toml.read text with
    | some members => exact .ok _
    | none => exact .error rfl
  | yaml =>
    rw [parse, lineTextOf_bind_eq htext, parseYaml]
    cases yaml (String.ofList (Text.normalizeBreaks text.toList)) with
    | some value => exact .ok _
    | none => exact .error rfl

theorem failsOnlyWith_rootMembers (value : Json) : FailsOnlyWith (rootMembers value) 3 := by
  cases value with
  | obj members => exact .ok members
  | _ => exact .error rfl

theorem rootMembers_eq_ok_iff {value : Json} {members : List (String × Json)} :
    rootMembers value = .ok members ↔ value = .obj members := by
  cases value <;> simp [rootMembers]

theorem failsWith_rootMembers_iff {value : Json} :
    FailsWith (rootMembers value) code ↔ code = 3 ∧ ∀ members, value ≠ .obj members := by
  rw [(failsOnlyWith_rootMembers value).failsWith_iff]
  simp only [ne_eq, rootMembers_eq_ok_iff]

theorem failsWith_load_of_missing (h : files.isFile path ≠ .ok true) :
    FailsWith (load yaml files path) 4 :=
  failsWith_iff_mapError.2 (mapError_load_of_not_isFile h yaml Json.standIn)

theorem failsWith_load_of_unsupported (h : files.isFile path = .ok true)
    (hformat : formatOf? path = none) : FailsWith (load yaml files path) 3 := by
  rw [load, h]
  dsimp only
  rw [hformat]
  exact failsWith_error_iff.2 rfl

theorem failsWith_load_of_unreadable (h : files.isFile path = .ok true)
    (hformat : formatOf? path = some format) (hread : ∀ content, files.read path ≠ .ok content) :
    FailsWith (load yaml files path) 4 := by
  rw [load, h]
  dsimp only
  rw [hformat]
  dsimp only
  cases hbytes : files.read path with
  | ok content => exact absurd hbytes (hread content)
  | error e => exact failsWith_error_iff.2 rfl

theorem load_of_read (h : files.read path = .ok content) (hformat : formatOf? path = some format) :
    load yaml files path half = (parse yaml format path.text content half >>= rootMembers) := by
  rw [load, Files.isFile_of_read h]
  dsimp only
  rw [hformat]
  dsimp only
  rw [h]

/-- Failing to parse a document. -/
theorem failsWith_parse_iff {path : String} :
    FailsWith (parse yaml format path content Json.standIn) code ↔
      (String.fromUTF8? content = none ∧ code = 1) ∨
        ∃ text, String.fromUTF8? content = some text ∧
          (IsBeyondLimits format text ∧ code = 1 ∨
            ¬ IsBeyondLimits format text ∧ code = 3 ∧
              ∀ value, parse yaml format path content Json.standIn ≠ .ok value) := by
  cases htext : String.fromUTF8? content with
  | none =>
    rw [parse_of_notText format path htext, failsWith_error_iff]
    simp [Failure.exitCode, eq_comm]
  | some text =>
    by_cases hbeyond : IsBeyondLimits format text
    · have hfails := @failsWith_parse_of_isBeyondLimits yaml _ _ _ path htext hbeyond
      have hcode : FailsWith (parse yaml format path content Json.standIn) code ↔ code = 1 :=
        ⟨fun h => h.unique hfails, fun h => h ▸ hfails⟩
      rw [hcode]
      simp [hbeyond]
    · rw [(failsOnlyWith_parse path htext hbeyond).failsWith_iff]
      simp [hbeyond]

theorem loadFails_of_failsWith (hfails : FailsWith (load yaml files path) code) :
    LoadFails yaml files path code := by
  by_cases hfile : files.isFile path = .ok true
  · -- the ending of the name is looked at before the file is opened
    cases hformat : formatOf? path with
    | none =>
      obtain rfl := hfails.unique (failsWith_load_of_unsupported hfile hformat)
      exact .unsupported hfile hformat
    | some format =>
      by_cases hread : ∃ content, files.read path = .ok content
      · obtain ⟨content, hread⟩ := hread
        rw [load_of_read hread hformat] at hfails
        rcases failsWith_bind_iff.1 hfails with hparse | ⟨value, hparse, hroot⟩
        · rcases failsWith_parse_iff.1 hparse with ⟨htext, rfl⟩ | ⟨text, htext, hlimits⟩
          · exact .notText hread hformat htext
          · rcases hlimits with ⟨hbeyond, rfl⟩ | ⟨hwithin, rfl, hnone⟩
            · exact .beyondLimits hread hformat htext hbeyond
            · exact .unparsable hread hformat htext hwithin hnone
        · obtain ⟨rfl, hmembers⟩ := failsWith_rootMembers_iff.1 hroot
          exact .noTable hread hformat hparse hmembers
      · have hnone := not_exists.1 hread
        obtain rfl := hfails.unique (failsWith_load_of_unreadable hfile hformat hnone)
        exact .unreadable hfile hformat hnone
  · obtain rfl := hfails.unique (failsWith_load_of_missing hfile)
    exact .missing hfile

theorem failsWith_load_iff :
    FailsWith (load yaml files path) code ↔ LoadFails yaml files path code := by
  refine ⟨loadFails_of_failsWith, fun hfails => ?_⟩
  cases hfails with
  | missing h => exact failsWith_load_of_missing h
  | unsupported h hformat => exact failsWith_load_of_unsupported h hformat
  | unreadable h hformat hread => exact failsWith_load_of_unreadable h hformat hread
  | notText h hformat htext =>
    rw [load_of_read h hformat]
    exact FailsWith.bind (failsWith_parse_iff.2 (Or.inl ⟨htext, rfl⟩)) _
  | beyondLimits h hformat htext hbeyond =>
    rw [load_of_read h hformat]
    exact (failsWith_parse_of_isBeyondLimits _ htext hbeyond).bind _
  | unparsable h hformat htext hwithin hparse =>
    rw [load_of_read h hformat]
    have hthree := (failsOnlyWith_parse path.text htext hwithin).failsWith_iff.2 ⟨rfl, hparse⟩
    exact FailsWith.bind hthree _
  | noTable h hformat hparse hroot =>
    rw [load_of_read h hformat]
    exact FailsWith.bind_ok (failsWith_rootMembers_iff.2 ⟨rfl, hroot⟩) hparse

end

end Config

/-! ### Building settings -/

namespace Settings

/-- Settings with the options of each component in its place. -/
structure Fits (settings : Settings) : Prop where
  markdown : settings.markdown.component = .markdownReader
  tree : settings.tree.component = .treeReader
  html : settings.html.component = .htmlWriter
  latex : settings.latex.component = .latexWriter

theorem Reflects.fits {members : List (String × Json)} {linkUnderline : Bool} {settings : Settings}
    (h : Reflects members linkUnderline settings) : settings.Fits := by
  have hcomponent : ∀ part ∈ optionSections, (settings.optionsFor part.2).component = part.2 := by
    intro part hpart
    have hreader : part.2 ≠ .treeWriter := by
      revert part
      decide
    obtain ⟨o, ho, hcomponent⟩ := ofMapping_eq_ok hreader (entriesUnder members part.1)
    rw [h.options part hpart] at ho
    rwa [Except.ok.inj ho]
  obtain ⟨hmarkdown, htree, hhtml, hlatex⟩ := forall_mem_optionSections_iff.1 hcomponent
  exact ⟨hmarkdown, htree, hhtml, hlatex⟩

theorem fits_of_build {members : List (String × Json)} {linkUnderline : Bool} {settings : Settings}
    (h : (build members linkUnderline).outcome.1 = .ok settings) : settings.Fits := by
  rw [(leaves_build members linkUnderline).outcome_fst] at h
  exact (ofMembers_eq_ok_iff_reflects.1 h).2.fits

theorem failsWith_build_iff {members : List (String × Json)} {linkUnderline : Bool} {code : Nat} :
    FailsWith (build members linkUnderline).outcome.1 code ↔
      code = 3 ∧ ∀ settings, (build members linkUnderline).outcome.1 ≠ .ok settings := by
  rw [(leaves_build members linkUnderline).outcome_fst]
  have honly : FailsOnlyWith (ofMembers members linkUnderline) 3 := by
    intro e he
    obtain ⟨message, name, rfl⟩ := (flaw_of_ofMembers he).eq_validation
    rfl
  exact honly.failsWith_iff

end Settings

/-! ### Reading a source -/

/-- Reading a source in the editor's format fails with an exit code. -/
inductive ReadFails (strict : Bool) (source : String) : Nat → Prop
  | json {e : Json.ReadError} (h : Json.read source = .error e) (he : e ≠ .tooManyDigits) :
    ReadFails strict source 6
  | digits (h : Json.read source = .error .tooManyDigits) : ReadFails strict source 1
  | defect {value : Json} {d : Editor.Defect} (hstrict : strict = true)
    (h : Json.read source = .ok value) (hdefect : Editor.decodeDocStrict value = .error d) :
    ReadFails strict source 3
  | violation {value : Json} {doc : Node} {v : Violation} (hstrict : strict = true)
    (h : Json.read source = .ok value) (hdoc : Editor.decodeDocStrict value = .ok doc)
    (hcheck : Draft.check Editor.levelLimit (Draft.ofNode doc) = .error (.violation v)) :
    ReadFails strict source 3
  | levels {value : Json} {doc : Node} (hstrict : strict = true)
    (h : Json.read source = .ok value) (hdoc : Editor.decodeDocStrict value = .ok doc)
    (hcheck : Draft.check Editor.levelLimit (Draft.ofNode doc) = .error .tooDeep) :
    ReadFails strict source 6

theorem read_of_json {strict : Bool} {source : String} {e : Json.ReadError}
    (h : Json.read source = .error e) : Editor.read strict source = .error (.json e) := by
  cases strict <;> simp [Editor.read, Editor.readStrict, Editor.readLenient, h]

/-- What strict reading refuses has a message, as no first number is shown in it. -/
theorem exitCode_of_check {doc : Node} {v : Violation}
    (h : Draft.check Editor.levelLimit (Draft.ofNode doc) = .error (.violation v)) :
    (Failure.ofRefusal (.violation v)).exitCode = 3 := by
  obtain ⟨parent, found, rfl⟩ := Draft.child_of_check_ofNode doc _ h
  rfl

theorem readFails_of_read {strict : Bool} {source : String} {refusal : Editor.Refusal}
    (h : Editor.read strict source = .error refusal) :
    ReadFails strict source (Failure.ofRefusal refusal).exitCode := by
  cases hjson : Json.read source with
  | error e =>
    rw [read_of_json hjson] at h
    cases h
    cases e with
    | flaw what line column offset => exact .json hjson nofun
    | tooDeep => exact .json hjson nofun
    | tooManyDigits => exact .digits hjson
  | ok value =>
    cases strict with
    | false => simp [Editor.read, Editor.readLenient, hjson] at h
    | true =>
      rw [Editor.read, if_pos rfl, Editor.readStrict, hjson] at h
      dsimp only at h
      split at h
      · rename_i d hdefect
        cases h
        exact .defect rfl hjson hdefect
      · rename_i doc hdoc
        split at h
        · cases h
        · rename_i v hcheck
          cases h
          rw [exitCode_of_check hcheck]
          exact .violation rfl hjson hdoc hcheck
        · rename_i hcheck
          cases h
          exact .levels rfl hjson hdoc hcheck

theorem exists_read_of_readFails {strict : Bool} {source : String} {code : Nat}
    (h : ReadFails strict source code) :
    ∃ refusal, Editor.read strict source = .error refusal ∧
      (Failure.ofRefusal refusal).exitCode = code := by
  cases h with
  | @json e h he =>
    refine ⟨_, read_of_json h, ?_⟩
    cases e with
    | tooManyDigits => exact absurd rfl he
    | _ => rfl
  | digits h => exact ⟨_, read_of_json h, rfl⟩
  | @defect value d hstrict h hdefect =>
    refine ⟨.defect d, ?_, rfl⟩
    simp only [Editor.read, hstrict, if_true, Editor.readStrict, h, hdefect]
  | @violation value doc v hstrict h hdoc hcheck =>
    refine ⟨.violation v, ?_, exitCode_of_check hcheck⟩
    simp only [Editor.read, hstrict, if_true, Editor.readStrict, h, hdoc, hcheck]
  | levels hstrict h hdoc hcheck =>
    refine ⟨.tooDeep, ?_, rfl⟩
    simp only [Editor.read, hstrict, if_true, Editor.readStrict, h, hdoc, hcheck]

theorem failsWith_readBy_iff (tokens : String → List Markdown.Token) {o : Options}
    {source : String} {code : Nat} :
    FailsWith (Reader.readBy tokens ⟨.tree, o⟩ source) code ↔
      ReadFails (o.get "strict_mode").truthy source code := by
  unfold Reader.readBy
  dsimp only
  constructor
  · intro h
    cases hread : Editor.read (o.get "strict_mode").truthy source with
    | ok doc =>
      rw [hread] at h
      exact absurd h failsWith_ok_iff.1
    | error refusal =>
      rw [hread] at h
      rw [← failsWith_error_iff.1 h]
      exact readFails_of_read hread
  · intro h
    obtain ⟨refusal, hread, hcode⟩ := exists_read_of_readFails h
    rw [hread]
    exact failsWith_error_iff.2 hcode

/-! ### Formats -/

theorem SourceFormat.mem_names_iff {name : String} :
    name ∈ names ↔ ∃ format : SourceFormat, name = format.name := by
  constructor
  · intro h
    simp only [names, List.mem_cons, List.not_mem_nil, or_false] at h
    rcases h with rfl | rfl
    · exact ⟨.markdown, rfl⟩
    · exact ⟨.tree, rfl⟩
  · rintro ⟨format, rfl⟩
    cases format <;> decide

theorem SourceFormat.ofName_of_not_mem {name : String} (h : name ∉ names) :
    ofName name = .error (.format name names none) := by
  simp only [names, List.mem_cons, List.not_mem_nil, or_false, not_or] at h
  simp only [ofName, h.1, h.2, if_false]

theorem TargetFormat.mem_names_iff {name : String} :
    name ∈ names ↔ ∃ format : TargetFormat, name = format.name := by
  constructor
  · intro h
    simp only [names, List.mem_cons, List.not_mem_nil, or_false] at h
    rcases h with rfl | rfl | rfl
    · exact ⟨.html, rfl⟩
    · exact ⟨.latex, rfl⟩
    · exact ⟨.tree, rfl⟩
  · rintro ⟨format, rfl⟩
    cases format <;> decide

theorem TargetFormat.ofName_of_not_mem {name : String} (h : name ∉ names) :
    ofName name = .error (.format name names none) := by
  simp only [names, List.mem_cons, List.not_mem_nil, or_false, not_or] at h
  simp only [ofName, h.1, h.2, if_false]

namespace Settings

variable {settings : Settings}

/-- The reader of a format, with the options that the settings have for it. -/
theorem Fits.reader (h : settings.Fits) (format : SourceFormat) :
    Reader.make format.name (settings.readerOptions format.name) = .ok
      ⟨format, match format with
        | .markdown => settings.markdown
        | .tree => settings.tree⟩ := by
  cases format with
  | markdown => exact Reader.make_name .markdown h.markdown
  | tree => exact Reader.make_name .tree h.tree

theorem Fits.writer (h : settings.Fits) (format : TargetFormat) (indent : Option Int) :
    Writer.make format.name (settings.writerOptions format.name indent) = .ok
      ⟨format, match format with
        | .html => settings.html
        | .latex => settings.latex
        | .tree => ⟨.treeWriter, [("indent", (indent.map Json.int).getD .null)]⟩⟩ := by
  cases format with
  | html => exact Writer.make_name .html h.html
  | latex => exact Writer.make_name .latex h.latex
  | tree => exact Writer.make_name .tree rfl

theorem Fits.failsWith_parseBy_iff (h : settings.Fits) (tokens : String → List Markdown.Token)
    (source : String) {format : String} {code : Nat} :
    FailsWith (parseBy tokens source format (settings.readerOptions format)) code ↔
      (format ∉ SourceFormat.names ∧ code = 5) ∨
        (format = "tree" ∧ ReadFails (settings.tree.get "strict_mode").truthy source code) := by
  by_cases hformat : format ∈ SourceFormat.names
  · obtain ⟨format, rfl⟩ := SourceFormat.mem_names_iff.1 hformat
    rw [parseBy, h.reader format]
    cases format with
    | markdown =>
      have hread : ¬ FailsWith (Reader.readBy tokens ⟨.markdown, settings.markdown⟩ source) code :=
        failsWith_ok_iff.1
      simpa [bind, Except.bind, SourceFormat.name, SourceFormat.names] using hread
    | tree =>
      have hread := @failsWith_readBy_iff tokens settings.tree source code
      simpa [bind, Except.bind, SourceFormat.name, SourceFormat.names] using hread
  · have hmake : Reader.make format (settings.readerOptions format) =
        .error (.format format SourceFormat.names none) := by
      rw [Reader.make, SourceFormat.ofName_of_not_mem hformat]
      rfl
    have htree : format ≠ "tree" := by
      rintro rfl
      exact hformat (by decide)
    rw [parseBy, hmake]
    simp [FailsWith, hformat, htree, bind, Except.bind, Failure.exitCode, eq_comm]

theorem Fits.failsWith_make_iff (h : settings.Fits) {format : String} (indent : Option Int)
    {code : Nat} :
    FailsWith (Writer.make format (settings.writerOptions format indent)) code ↔
      format ∉ TargetFormat.names ∧ code = 5 := by
  by_cases hformat : format ∈ TargetFormat.names
  · obtain ⟨format, rfl⟩ := TargetFormat.mem_names_iff.1 hformat
    rw [h.writer format indent, failsWith_ok_iff]
    simp [hformat]
  · have hmake : Writer.make format (settings.writerOptions format indent) =
        .error (.format format TargetFormat.names none) := by
      rw [Writer.make, TargetFormat.ofName_of_not_mem hformat]
      rfl
    rw [hmake, failsWith_error_iff]
    simp [hformat, Failure.exitCode, eq_comm]

end Settings

/-! ### Rendering -/

theorem Html.failsOnlyWith_applyMark (style : Html.Style) (underline : Bool) (body : List Char)
    (mark : Mark) : FailsOnlyWith (Html.applyMark style underline body mark) 1 := by
  have hvalue : ∀ value, FailsOnlyWith (style.value value) 1 := by
    intro value
    unfold Html.Style.value
    split
    · exact .ok _
    · split
      · exact .error rfl
      · exact .ok _
  have hattr : ∀ name value, FailsOnlyWith (Html.attr style name value) 1 :=
    fun name value => (hvalue value).map _
  have hattr? : ∀ name value, FailsOnlyWith (Html.attr? style name value) 1 := by
    intro name value
    unfold Html.attr?
    split
    · exact hattr name value
    · exact .ok []
  cases mark with
  | link href target className =>
    refine (hattr _ _).bind fun href _ => ?_
    cases underline with
    | true => exact (hattr? "class" className).bind fun className _ => .ok _
    | false =>
      refine (hattr? "target" target).bind fun target _ => ?_
      exact (hattr? "class" className).bind fun className _ => .ok _
  | _ => exact .ok _

theorem Latex.failsOnlyWith_applyMark (style : Latex.Style) (underline : Bool) (body : List Char)
    (mark : Mark) : FailsOnlyWith (Latex.applyMark style underline body mark) 1 := by
  cases mark with
  | link href target className =>
    refine FailsOnlyWith.bind ?_ fun url _ => .ok _
    unfold Latex.Style.url
    split
    · split
      · exact .ok _
      · split
        · exact .error rfl
        · exact .ok _
    · exact .ok []
  | _ => exact .ok _

/-- A writer of the settings that fails does so because of a value of a wrong kind. -/
theorem Settings.Fits.failsOnlyWith_write {settings : Settings} (h : settings.Fits)
    {format : String} {indent : Option Int} {writer : Writer}
    (hmake : Writer.make format (settings.writerOptions format indent) = .ok writer)
    (context : Context) (doc : Node) : FailsOnlyWith (writer.write context doc) 1 := by
  have hformat : format ∈ TargetFormat.names := by
    by_contra hunknown
    obtain ⟨e, he, _⟩ := (h.failsWith_make_iff indent).2 ⟨hunknown, rfl⟩
    rw [hmake] at he
    cases he
  obtain ⟨format, rfl⟩ := TargetFormat.mem_names_iff.1 hformat
  rw [h.writer format indent] at hmake
  cases hmake
  cases format with
  | html => exact ((Html.walks _ _).failsOnlyWith (Html.failsOnlyWith_applyMark _ _) doc).map _
  | latex => exact ((Latex.walks _ _).failsOnlyWith (Latex.failsOnlyWith_applyMark _ _) doc).map _
  | tree =>
    have hlayout : FailsOnlyWith (layoutOf ((indent.map Json.int).getD .null)) 1 := by
      cases indent with
      | none => exact .ok _
      | some n => exact .ok _
    refine hlayout.bind fun layout _ => ?_
    cases Editor.write? layout doc with
    | none => exact .error rfl
    | some text => exact .ok text

namespace CommandLine

/-! ### Indentation and input -/

theorem failsWith_checkedIndent_iff {a : Arguments} {code : Nat} :
    FailsWith (checkedIndent a) code ↔ (∃ n ∈ a.indent, n < 0) ∧ code = 3 := by
  unfold checkedIndent
  cases a.indent with
  | none => simp [FailsWith]
  | some n =>
    by_cases hn : n < 0
    · simp [FailsWith, hn, Failure.exitCode, eq_comm]
    · simp [FailsWith, hn]

/-- Reading the input fails with an exit code. -/
inductive InputFails (s : Surroundings) (a : Arguments) : Nat → Prop
  | unreadable {path : Path} (h : a.inputPath? = some path)
    (hread : ∀ content, s.files.read path ≠ .ok content) : InputFails s a 4
  | notText {content : ByteArray} (h : contentOf s a = .ok content)
    (htext : String.fromUTF8? content = none) : InputFails s a 1

theorem failsWith_contentOf_iff {s : Surroundings} {a : Arguments} {code : Nat} :
    FailsWith (contentOf s a) code ↔
      (∃ path, a.inputPath? = some path ∧ ∀ content, s.files.read path ≠ .ok content) ∧
        code = 4 := by
  unfold contentOf
  cases a.inputPath? with
  | none => simp [FailsWith]
  | some path =>
    cases hread : s.files.read path with
    | ok content => simp [FailsWith, hread, Except.mapError]
    | error e => simp [FailsWith, hread, Except.mapError, OpenError.failure, Failure.exitCode, eq_comm]

theorem failsWith_lineTextOf_iff {content : ByteArray} {code : Nat} :
    FailsWith (Config.lineTextOf content) code ↔
      String.fromUTF8? content = none ∧ code = 1 := by
  unfold Config.lineTextOf Config.textOf
  cases String.fromUTF8? content with
  | none => simp [FailsWith, Except.map, Failure.exitCode, eq_comm]
  | some text => simp [FailsWith, Except.map]

theorem failsWith_sourceOf_iff {s : Surroundings} {a : Arguments} {code : Nat} :
    FailsWith (sourceOf s a) code ↔ InputFails s a code := by
  unfold sourceOf
  rw [failsWith_bind_iff, failsWith_contentOf_iff]
  simp only [failsWith_lineTextOf_iff]
  constructor
  · rintro (⟨⟨path, hpath, hread⟩, rfl⟩ | ⟨content, hcontent, htext, rfl⟩)
    · exact .unreadable hpath hread
    · exact .notText hcontent htext
  · rintro (⟨hpath, hread⟩ | ⟨hcontent, htext⟩)
    · exact Or.inl ⟨⟨_, hpath, hread⟩, rfl⟩
    · exact Or.inr ⟨_, hcontent, htext, rfl⟩

end CommandLine

end Vitae
