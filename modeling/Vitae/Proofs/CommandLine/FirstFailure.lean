import Vitae.Proofs.CommandLine.Failures
import Vitae.Proofs.CommandLine.Halves
import Vitae.Proofs.CommandLine.Run

/-!
# The first failure

The first stage that fails decides the exit code of a run, and a run that fails puts nothing out.
-/

namespace Vitae.CommandLine

/-! ### Stages that fail -/

/-- The first stage of a run that fails does so with an exit code. -/
inductive FailsFirst (l : Libraries) (s : Surroundings) : Nat → Prop
  | arguments {e : UsageError} (h : parseArguments s.environment s.words = .error (.error e)) :
    FailsFirst l s 2
  | level {a : Arguments} (h : parseArguments s.environment s.words = .ok a)
    (hlevel : ∀ threshold, a.threshold ≠ .ok threshold) : FailsFirst l s 1
  | indent {a : Arguments} {n : Int} (h : Starts s a) (hindent : n ∈ a.indent)
    (hnegative : n < 0) : FailsFirst l s 3
  | config {a : Arguments} {path : Path} {code : Nat} (h : Begins s a)
    (hpath : a.configPath? = some path) (hload : Config.LoadFails l.yaml s.files path code) :
    FailsFirst l s code
  | settings {a : Arguments} {members : List (String × Json)} (h : Begins s a)
    (hload : loaded l s.files a Json.standIn = .ok members)
    (hbuild : ∀ settings, (Settings.build members a.linkUnderline).outcome.1 ≠ .ok settings) :
    FailsFirst l s 3
  | input {a : Arguments} {settings : Settings} {code : Nat} (h : SetsUp l s a settings)
    (hinput : InputFails s a code) : FailsFirst l s code
  | sourceFormat {a : Arguments} {settings : Settings} {source : String}
    (h : Supplies l s a settings source) (hunknown : a.source ∉ SourceFormat.names) :
    FailsFirst l s 5
  | source {a : Arguments} {settings : Settings} {source : String} {code : Nat}
    (h : Supplies l s a settings source) (htree : a.source = "tree")
    (hread : ReadFails (settings.tree.get "strict_mode").truthy source code) : FailsFirst l s code
  | targetFormat {a : Arguments} {settings : Settings} {source : String} {doc : Node}
    (h : Understands l s a settings source doc) (hunknown : a.target ∉ TargetFormat.names) :
    FailsFirst l s 5
  | rendering {a : Arguments} {settings : Settings} {source : String} {doc : Node} {writer : Writer}
    (h : Understands l s a settings source doc)
    (hmake : Writer.make a.target (settings.writerOptions a.target a.indent) = .ok writer)
    (hwrite : ∀ text, writer.write settings.context doc ≠ .ok text) : FailsFirst l s 1
  | output {a : Arguments} {settings : Settings} {source : String} {doc : Node} {text : String}
    {path : Path} (h : Drafts l s a settings source doc text) (hout : a.outPath? = some path)
    (hplace : ∀ place, s.files.locateWritable path ≠ .ok place) : FailsFirst l s 7
  | encoding {a : Arguments} {settings : Settings} {source : String} {doc : Node} {text : String}
    (h : Drafts l s a settings source doc text) (hhalf : ¬ IsWhole l s a text)
    (hout : ∀ path, a.outPath? = some path → ∃ place, s.files.locateWritable path = .ok place) :
    FailsFirst l s 1

section

variable {l : Libraries} {s : Surroundings} {a : Arguments} {settings : Settings}
  {source text : String} {doc : Node} {code : Nat}

theorem SetsUp.fits (h : SetsUp l s a settings) : settings.Fits := by
  obtain ⟨members, _, hbuild⟩ := h.built
  exact Settings.fits_of_build hbuild

theorem failsWith_loaded_iff :
    FailsWith (loaded l s.files a Json.standIn) code ↔
      ∃ path, a.configPath? = some path ∧ Config.LoadFails l.yaml s.files path code := by
  unfold loaded
  cases a.configPath? with
  | none => simp [FailsWith]
  | some path => simp [Config.failsWith_load_iff]

/-- A failure before the output is that of the first stage that fails. -/
theorem failsFirst_of_failsWith (hstarts : Starts s a)
    (h : FailsWith (drafted l s a Json.standIn) code) : FailsFirst l s code := by
  rcases failsWith_bind_iff.1 h with hindent | ⟨_, hindent, h⟩
  · obtain ⟨⟨n, hn, hnegative⟩, rfl⟩ := failsWith_checkedIndent_iff.1 hindent
    exact .indent hstarts hn hnegative
  have hbegins : Begins s a := ⟨hstarts, checkedIndent_eq_ok_iff.1 hindent⟩
  rcases failsWith_bind_iff.1 h with hload | ⟨members, hload, h⟩
  · obtain ⟨path, hpath, hfails⟩ := failsWith_loaded_iff.1 hload
    exact .config hbegins hpath hfails
  rcases failsWith_bind_iff.1 h with hbuild | ⟨settings, hbuild, h⟩
  · obtain ⟨rfl, hnone⟩ := Settings.failsWith_build_iff.1 hbuild
    exact .settings hbegins hload hnone
  have hsets : SetsUp l s a settings := ⟨hbegins, members, hload, hbuild⟩
  rcases failsWith_bind_iff.1 h with hsource | ⟨source, hsource, h⟩
  · exact .input hsets (failsWith_sourceOf_iff.1 hsource)
  have hsupplies : Supplies l s a settings source := ⟨hsets, hsource⟩
  rcases failsWith_bind_iff.1 h with hread | ⟨doc, hread, h⟩
  · rcases (hsets.fits.failsWith_parseBy_iff l.tokens source).1 hread with
      ⟨hunknown, rfl⟩ | ⟨htree, hread⟩
    · exact .sourceFormat hsupplies hunknown
    · exact .source hsupplies htree hread
  have hunderstands : Understands l s a settings source doc := ⟨hsupplies, hread⟩
  rcases failsWith_bind_iff.1 h with hmake | ⟨writer, hmake, h⟩
  · obtain ⟨hunknown, rfl⟩ := (hsets.fits.failsWith_make_iff a.indent).1 hmake
    exact .targetFormat hunderstands hunknown
  have hone := hsets.fits.failsOnlyWith_write hmake settings.context doc
  obtain ⟨rfl, hnone⟩ := hone.failsWith_iff.1 h
  exact .rendering hunderstands hmake hnone

theorem exists_drafts_of_drafted (hstarts : Starts s a)
    (h : drafted l s a Json.standIn = .ok text) :
    ∃ settings source doc, Drafts l s a settings source doc text := by
  obtain ⟨_, hindent, h⟩ := bind_eq_ok_iff.1 h
  obtain ⟨members, hload, h⟩ := bind_eq_ok_iff.1 h
  obtain ⟨settings, hbuild, h⟩ := bind_eq_ok_iff.1 h
  obtain ⟨source, hsource, h⟩ := bind_eq_ok_iff.1 h
  obtain ⟨doc, hread, h⟩ := bind_eq_ok_iff.1 h
  obtain ⟨writer, hmake, hwrite⟩ := bind_eq_ok_iff.1 h
  have hbegins : Begins s a := ⟨hstarts, checkedIndent_eq_ok_iff.1 hindent⟩
  exact ⟨settings, source, doc,
    { toBegins := hbegins, built := ⟨members, hload, hbuild⟩, supplied := hsource,
      understood := hread, written := ⟨writer, hmake, hwrite⟩ }⟩

/-- A run that comes to its output fails there: the file cannot be written, or the text cannot be
encoded. -/
inductive OutputFails (l : Libraries) (s : Surroundings) (a : Arguments) (text : String) : Nat → Prop
  | unwritable {path : Path} (hout : a.outPath? = some path)
    (hplace : ∀ place, s.files.locateWritable path ≠ .ok place) : OutputFails l s a text 7
  | half (hhalf : ¬ IsWhole l s a text)
    (hout : ∀ path, a.outPath? = some path → ∃ place, s.files.locateWritable path = .ok place) :
    OutputFails l s a text 1

theorem failsWith_of_failsFirst (hstarts : Starts s a) (h : FailsFirst l s code) :
    FailsWith (drafted l s a Json.standIn) code ∨
      ∃ text, drafted l s a Json.standIn = .ok text ∧ OutputFails l s a text code := by
  have hsame : ∀ {b : Arguments}, parseArguments s.environment s.words = .ok b → b = a := by
    intro b hb
    rw [hstarts.parsed] at hb
    cases hb
    rfl
  cases h with
  | arguments h =>
    rw [hstarts.parsed] at h
    cases h
  | level h hlevel =>
    obtain rfl := hsame h
    obtain ⟨threshold, hthreshold⟩ := hstarts.leveled
    exact absurd hthreshold (hlevel threshold)
  | indent h hindent hnegative =>
    obtain rfl := hsame h.parsed
    have hfails := failsWith_checkedIndent_iff.2 ⟨⟨_, hindent, hnegative⟩, rfl⟩
    exact Or.inl (hfails.bind _)
  | config h hpath hload =>
    obtain rfl := hsame h.parsed
    rw [h.drafted_eq]
    have hfails := failsWith_loaded_iff.2 ⟨_, hpath, hload⟩
    exact Or.inl (hfails.bind _)
  | settings h hload hbuild =>
    obtain rfl := hsame h.parsed
    rw [h.drafted_eq]
    have hfails := Settings.failsWith_build_iff.2 ⟨rfl, hbuild⟩
    refine Or.inl (FailsWith.bind_ok ?_ hload)
    exact hfails.bind _
  | input h hinput =>
    obtain rfl := hsame h.parsed
    rw [h.drafted_eq]
    have hfails := failsWith_sourceOf_iff.2 hinput
    exact Or.inl (hfails.bind _)
  | @sourceFormat _ _ source h hunknown =>
    obtain rfl := hsame h.parsed
    rw [h.drafted_eq]
    have hfails := (h.fits.failsWith_parseBy_iff l.tokens source).2 (Or.inl ⟨hunknown, rfl⟩)
    exact Or.inl (hfails.bind _)
  | source h htree hread =>
    obtain rfl := hsame h.parsed
    rw [h.drafted_eq]
    have hfails := (h.fits.failsWith_parseBy_iff l.tokens _).2 (Or.inr ⟨htree, hread⟩)
    exact Or.inl (hfails.bind _)
  | @targetFormat b _ _ _ h hunknown =>
    obtain rfl := hsame h.parsed
    rw [h.drafted_eq]
    have hfails := (h.fits.failsWith_make_iff b.indent).2 ⟨hunknown, rfl⟩
    exact Or.inl (hfails.bind _)
  | @rendering _ settings _ doc _ h hmake hwrite =>
    obtain rfl := hsame h.parsed
    rw [h.drafted_eq]
    have hone := h.fits.failsOnlyWith_write hmake settings.context doc
    refine Or.inl (FailsWith.bind_ok ?_ hmake)
    exact hone.failsWith_iff.2 ⟨rfl, hwrite⟩
  | output h hout hplace =>
    obtain rfl := hsame h.parsed
    exact Or.inr ⟨_, h.drafted_eq, .unwritable hout hplace⟩
  | encoding h hhalf hout =>
    obtain rfl := hsame h.parsed
    exact Or.inr ⟨_, h.drafted_eq, .half hhalf hout⟩

end

/-! ### Exit codes -/

/-- The place of the file that the output is put into, if it can be written. -/
def Arguments.outPlace? (a : Arguments) (files : Files) : Option Place :=
  a.outPath?.bind fun path => (files.locateWritable path).toOption

/-- What a run that fails leaves: all files are as they were but for the log, and but for the file of
the output where half a surrogate pair was read. -/
structure Spares (s : Surroundings) (a : Arguments) (after : Files) : Prop where
  withoutHalf : HasNoHalf s a → Files.AgreeBut (a.logPlace? s.files).toList s.files after
  always : Files.AgreeBut ((a.outPlace? s.files).toList ++ (a.logPlace? s.files).toList) s.files after

section

variable {l : Libraries} {s : Surroundings} {a : Arguments} {code : Nat}

theorem spares_of_logged {after : Files} (h : Files.Logged (a.logPlace? s.files) s.files after) :
    Spares s a after where
  withoutHalf _ := h.agree
  always := h.agree.mono (List.subset_append_right _ _)

theorem runArguments_of_outputFails {threshold : Int} {text : String}
    (hlevel : a.threshold = .ok threshold) (hapart : a.LogIsApart s.files)
    (hdrafted : drafted l s a Json.standIn = .ok text) (h : OutputFails l s a text code) :
    (runArguments l s a).exitCode = code ∧ (runArguments l s a).output = "" ∧
      Spares s a (runArguments l s a).files := by
  cases h with
  | unwritable hout hplace =>
    obtain ⟨hcode, houtput, hlogged⟩ := runArguments_unwritable hlevel hapart hdrafted hout hplace
    exact ⟨hcode, houtput, spares_of_logged hlogged⟩
  | half hhalf hwritable =>
    have hwhole : isWhole l s a threshold text = false :=
      Bool.eq_false_iff.2 fun htrue => hhalf ((isWhole_eq_true_iff hapart).1 htrue)
    cases hout : a.outPath? with
    | none =>
      have hprinted := runArguments_printed hlevel hapart hdrafted hout
      rw [hwhole] at hprinted
      obtain ⟨hcode, houtput, hlogged⟩ := hprinted
      exact ⟨hcode, houtput, spares_of_logged hlogged⟩
    | some path =>
      obtain ⟨place, hplace⟩ := hwritable path hout
      have hfile := runArguments_file hlevel hapart hdrafted hout hplace
      rw [hwhole] at hfile
      obtain ⟨hcode, houtput, hwritten⟩ := hfile
      have houtPlace : a.outPlace? s.files = some place := by
        rw [Arguments.outPlace?, hout, Option.bind_some, hplace]
        rfl
      exact ⟨hcode, houtput, fun hnone => absurd (hnone.isWhole hdrafted) hhalf,
        by rw [houtPlace]; exact hwritten.agree⟩

/-- Where a run does not start it is because of the arguments or of the level. -/
theorem failsFirst_cases (h : FailsFirst l s code) :
    (∃ e, parseArguments s.environment s.words = .error (.error e) ∧ code = 2) ∨
      (∃ a, parseArguments s.environment s.words = .ok a ∧
        (∀ threshold, a.threshold ≠ .ok threshold) ∧ code = 1) ∨ ∃ a, Starts s a := by
  cases h with
  | arguments h => exact Or.inl ⟨_, h, rfl⟩
  | level h hlevel => exact Or.inr (Or.inl ⟨_, h, hlevel, rfl⟩)
  | indent h => exact Or.inr (Or.inr ⟨_, h⟩)
  | config h => exact Or.inr (Or.inr ⟨_, h.toStarts⟩)
  | settings h => exact Or.inr (Or.inr ⟨_, h.toStarts⟩)
  | input h => exact Or.inr (Or.inr ⟨_, h.toStarts⟩)
  | sourceFormat h => exact Or.inr (Or.inr ⟨_, h.toStarts⟩)
  | source h => exact Or.inr (Or.inr ⟨_, h.toStarts⟩)
  | targetFormat h => exact Or.inr (Or.inr ⟨_, h.toStarts⟩)
  | rendering h => exact Or.inr (Or.inr ⟨_, h.toStarts⟩)
  | output h => exact Or.inr (Or.inr ⟨_, h.toStarts⟩)
  | encoding h => exact Or.inr (Or.inr ⟨_, h.toStarts⟩)

theorem runArguments_of_starts (hstarts : Starts s a) (hapart : a.LogIsApart s.files)
    (h : FailsFirst l s code) :
    (runArguments l s a).exitCode = code ∧ code ≠ 0 ∧ (runArguments l s a).output = "" ∧
      Spares s a (runArguments l s a).files := by
  obtain ⟨threshold, hlevel⟩ := hstarts.leveled
  rcases failsWith_of_failsFirst hstarts h with ⟨e, hdrafted, rfl⟩ | ⟨text, hdrafted, hfails⟩
  · obtain ⟨hcode, houtput, hlogged⟩ := runArguments_of_drafted_error hlevel hapart hdrafted
    exact ⟨hcode, Failure.exitCode_ne_zero e, houtput, spares_of_logged hlogged⟩
  · obtain ⟨hcode, hrest⟩ := runArguments_of_outputFails hlevel hapart hdrafted hfails
    refine ⟨hcode, ?_, hrest⟩
    cases hfails <;> decide

theorem exitCode_of_not_failsFirst (hstarts : Starts s a) (hapart : a.LogIsApart s.files)
    (h : ∀ code, ¬ FailsFirst l s code) : (runArguments l s a).exitCode = 0 := by
  obtain ⟨threshold, hlevel⟩ := hstarts.leveled
  cases hdrafted : drafted l s a Json.standIn with
  | error e => exact absurd (failsFirst_of_failsWith hstarts ⟨e, hdrafted, rfl⟩) (h _)
  | ok text =>
    obtain ⟨settings, source, doc, hdrafts⟩ := exists_drafts_of_drafted hstarts hdrafted
    have hwritable : ∀ path, a.outPath? = some path →
        ∃ place, s.files.locateWritable path = .ok place := by
      intro path hout
      by_contra hnone
      exact h 7 (.output hdrafts hout (not_exists.1 hnone))
    have hwhole : isWhole l s a threshold text = true := by
      rw [isWhole_eq_true_iff hapart]
      by_contra hhalf
      exact h 1 (.encoding hdrafts hhalf hwritable)
    cases hout : a.outPath? with
    | none =>
      rw [(runArguments_printed hlevel hapart hdrafted hout).1, if_pos hwhole]
    | some path =>
      obtain ⟨place, hplace⟩ := hwritable path hout
      rw [(runArguments_file hlevel hapart hdrafted hout hplace).1, if_pos hwhole]

theorem runArguments_of_noLevel (hlevel : ∀ threshold, a.threshold ≠ .ok threshold) :
    (runArguments l s a).exitCode = 1 ∧ (runArguments l s a).output = "" ∧
      (runArguments l s a).files = s.files := by
  unfold runArguments
  cases hthreshold : Log.thresholdOf (Log.levelOf a.logLevel) with
  | ok threshold => exact absurd hthreshold (hlevel threshold)
  | error e => exact ⟨rfl, rfl, rfl⟩

variable (hapart : ∀ a, parseArguments s.environment s.words = .ok a → a.LogIsApart s.files)

include hapart

/-- What a run does of which a stage fails. -/
theorem run_of_failsFirst (h : FailsFirst l s code) :
    (run l s).exitCode = code ∧ code ≠ 0 ∧ (run l s).output = "" ∧
      (∀ e, parseArguments s.environment s.words = .error e → (run l s).files = s.files) ∧
      ∀ a, parseArguments s.environment s.words = .ok a → Spares s a (run l s).files := by
  rcases failsFirst_cases h with ⟨e, hparse, rfl⟩ | ⟨a, hparse, hlevel, rfl⟩ | ⟨a, hstarts⟩
  · obtain ⟨hfiles, hstop⟩ := @run_of_stop l s _ hparse
    rcases hstop with ⟨_, hno⟩ | ⟨hcode, houtput, _⟩
    · exact absurd rfl (hno e)
    · refine ⟨hcode, by decide, houtput, fun _ _ => hfiles, fun a ha => ?_⟩
      rw [hparse] at ha
      cases ha
  · rw [run_of_parsed hparse]
    obtain ⟨hcode, houtput, hfiles⟩ := @runArguments_of_noLevel l s a hlevel
    refine ⟨hcode, by decide, houtput, fun _ _ => hfiles, fun b _ => ?_⟩
    rw [hfiles]
    exact ⟨fun _ => .refl _ _, .refl _ _⟩
  · have hparse := hstarts.parsed
    rw [run_of_parsed hparse]
    obtain ⟨hcode, hne, houtput, hspares⟩ :=
      runArguments_of_starts hstarts (hapart a hparse) h
    refine ⟨hcode, hne, houtput, fun e he => ?_, fun b hb => ?_⟩
    · rw [hparse] at he
      cases he
    · rw [hparse] at hb
      cases hb
      exact hspares

theorem exists_failsFirst (hne : (run l s).exitCode ≠ 0) : ∃ code, FailsFirst l s code := by
  by_contra hnone
  have hno := not_exists.1 hnone
  cases hparse : parseArguments s.environment s.words with
  | error stop =>
    rcases (@run_of_stop l s _ hparse).2 with ⟨hzero, _⟩ | ⟨_, _, e, rfl⟩
    · exact hne hzero
    · exact hno 2 (.arguments hparse)
  | ok a =>
    by_cases hlevel : ∃ threshold, a.threshold = .ok threshold
    · rw [run_of_parsed hparse] at hne
      exact hne (exitCode_of_not_failsFirst ⟨hparse, hlevel⟩ (hapart a hparse) hno)
    · exact hno 1 (.level hparse (not_exists.1 hlevel))

theorem failsFirst_iff_run : FailsFirst l s code ↔ (run l s).exitCode = code ∧ code ≠ 0 := by
  constructor
  · intro h
    obtain ⟨hcode, hne, _⟩ := run_of_failsFirst hapart h
    exact ⟨hcode, hne⟩
  · rintro ⟨rfl, hne⟩
    obtain ⟨code, h⟩ := exists_failsFirst hapart hne
    rw [(run_of_failsFirst hapart h).1]
    exact h

end

/-- The first stage that fails decides the exit code of a run. A run that fails puts nothing out. If
its arguments are not understood it leaves all files as they are, and else all but its log; only
where half a surrogate pair was read the file of the output may be left empty. A format that there is
not can only come from the environment, as can what is no level. -/
theorem run_failsFirst (l : Libraries) (s : Surroundings)
    (hapart : ∀ a, parseArguments s.environment s.words = .ok a → a.LogIsApart s.files) :
    (∀ code, FailsFirst l s code ↔ (run l s).exitCode = code ∧ code ≠ 0) ∧
    ((run l s).exitCode ≠ 0 → (run l s).output = "" ∧
      (∀ e, parseArguments s.environment s.words = .error e → (run l s).files = s.files) ∧
      ∀ a, parseArguments s.environment s.words = .ok a →
        (HasNoHalf s a →
          Files.AgreeBut (a.logPlace? s.files).toList s.files (run l s).files) ∧
        Files.AgreeBut ((a.outPlace? s.files).toList ++ (a.logPlace? s.files).toList) s.files
          (run l s).files) ∧
    ∀ a, parseArguments s.environment s.words = .ok a →
      ∃ ws, classifyAll s.words = .ok ws ∧
        (a.source ∉ SourceFormat.names → given .source ws = none ∧
          s.environment.lookup "RESUMARK_FROM" = some a.source) ∧
        (a.target ∉ TargetFormat.names → given .target ws = none ∧
          s.environment.lookup "RESUMARK_TO" = some a.target) ∧
        ((∀ threshold, a.threshold ≠ .ok threshold) → given .logLevel ws = none ∧
          ∃ name, s.environment.lookup "RESUMARK_LOG_LEVEL" = some name) := by
  refine ⟨fun code => failsFirst_iff_run hapart, fun hne => ?_, fun a hparse => ?_⟩
  · have hfirst := (failsFirst_iff_run hapart).2 ⟨rfl, hne⟩
    obtain ⟨_, _, houtput, hstop, hspares⟩ := run_of_failsFirst hapart hfirst
    exact ⟨houtput, hstop, fun a hparse =>
      ⟨(hspares a hparse).withoutHalf, (hspares a hparse).always⟩⟩
  · obtain ⟨ws, hwords, hobeys⟩ := obeys_of_parseArguments hparse
    exact ⟨ws, hwords, hobeys.lookup_of_source, hobeys.lookup_of_target, hobeys.lookup_of_level⟩

/-- A run of which config, input and output are missing: it is the config that is reported. -/
def missingRun : Surroundings where
  words := ["cv.md", "--config", "cv.toml", "-o", "no/cv.tex", "--log-file", "log"]

def missingArguments : Arguments where
  input := some "cv.md"
  source := "markdown"
  target := "html"
  out := some "no/cv.tex"
  config := some "cv.toml"
  logLevel := "WARNING"
  logFile := some "log"

theorem run_failsFirst_missing :
    missingArguments.LogIsApart missingRun.files ∧ FailsFirst .simple missingRun 4 ∧
      (run .simple missingRun).exitCode = 4 ∧ (run .simple missingRun).output = "" ∧
      Files.AgreeBut [["log"]] missingRun.files (run .simple missingRun).files := by
  have hparse : parseArguments missingRun.environment missingRun.words = .ok missingArguments :=
    rfl
  have hlog : missingArguments.logPlace? missingRun.files = some ["log"] := rfl
  have hapart : missingArguments.LogIsApart missingRun.files := by
    refine ⟨?_, ?_, ?_⟩
    · rw [hlog]
      rintro _ ⟨⟩ _ ⟨⟩
      decide +kernel
    · rw [hlog]
      rintro _ ⟨⟩ _ ⟨⟩
      decide +kernel
    · rw [hlog]
      rintro _ ⟨⟩ _ ⟨⟩
      decide +kernel
  have hnone : HasNoHalf missingRun missingArguments := by
    refine ⟨?_, nofun⟩
    rintro _ ⟨⟩ hjson
    have htoml : Config.formatOf? (Path.ofString "cv.toml") = some .toml := rfl
    rw [htoml] at hjson
    cases hjson
  have hfirst : FailsFirst .simple missingRun 4 := by
    have hpath : missingArguments.configPath? = some (Path.ofString "cv.toml") := rfl
    have hfile : missingRun.files.isFile (Path.ofString "cv.toml") = .ok false := rfl
    refine .config ⟨⟨hparse, _, rfl⟩, nofun⟩ hpath (.missing ?_)
    rw [hfile]
    exact nofun
  obtain ⟨hcode, hrest, _⟩ := run_failsFirst .simple missingRun fun a ha => by
    rw [hparse] at ha
    cases ha
    exact hapart
  obtain ⟨hfour, hne⟩ := (hcode 4).1 hfirst
  obtain ⟨houtput, _, hfiles⟩ := hrest (hfour ▸ hne)
  have hagree := (hfiles missingArguments hparse).1 hnone
  rw [hlog] at hagree
  exact ⟨hapart, hfirst, hfour, houtput, hagree⟩

end Vitae.CommandLine
