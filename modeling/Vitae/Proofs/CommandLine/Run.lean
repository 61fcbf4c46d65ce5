import Vitae.Proofs.CommandLine.Arguments
import Vitae.Proofs.CommandLine.Stages

/-!
# Runs

What a run of given arguments does follows from what the stages before its output come to. How far a
run comes is said stage by stage: it starts, begins, sets up, supplies its source, understands it and
drafts a text.
-/

namespace Vitae.CommandLine

/-! ### Runs of given arguments -/

section

variable {l : Libraries} {s : Surroundings} {a : Arguments} {threshold : Int} {text : String}

theorem runArguments_of_error {e : Failure} {d : Desk} (hlevel : a.threshold = .ok threshold)
    (h : (stages l s a threshold).run.run (Desk.ofArguments s a threshold) = (.error e, d)) :
    (runArguments l s a).exitCode = e.exitCode ∧ (runArguments l s a).output = "" ∧
      (runArguments l s a).files = (d.write (failureRecord e)).files := by
  rw [Arguments.threshold] at hlevel
  unfold runArguments
  rw [hlevel]
  dsimp only
  rw [h]
  exact ⟨rfl, rfl, rfl⟩

theorem runArguments_of_ok {output : String} {d : Desk} (hlevel : a.threshold = .ok threshold)
    (h : (stages l s a threshold).run.run (Desk.ofArguments s a threshold) = (.ok output, d)) :
    (runArguments l s a).exitCode = 0 ∧ (runArguments l s a).output = output ∧
      (runArguments l s a).files = d.files := by
  rw [Arguments.threshold] at hlevel
  unfold runArguments
  rw [hlevel]
  dsimp only
  rw [h]
  exact ⟨rfl, rfl, rfl⟩

theorem run_stages_of_drafted (threshold : Int) (hapart : a.LogIsApart s.files)
    (h : drafted l s a Json.standIn = .ok text) :
    ∃ d : Desk, d.Keeps s.files (a.logPlace? s.files) ∧
      (stages l s a threshold).run.run (Desk.ofArguments s a threshold) =
        (putOut a (isWhole l s a threshold text) (finish a text)).run.run d := by
  have hcomes := comes_drafting hapart l Json.standIn
  rw [h] at hcomes
  obtain ⟨d, hd, hrun⟩ := hcomes.run_ok (keeps_ofArguments s a threshold)
  refine ⟨d, hd, ?_⟩
  rw [stages, run_bind, hrun]

theorem runArguments_of_drafted_error {e : Failure} (hlevel : a.threshold = .ok threshold)
    (hapart : a.LogIsApart s.files) (h : drafted l s a Json.standIn = .error e) :
    (runArguments l s a).exitCode = e.exitCode ∧ (runArguments l s a).output = "" ∧
      Files.Logged (a.logPlace? s.files) s.files (runArguments l s a).files := by
  have hcomes := comes_drafting hapart l Json.standIn
  rw [h] at hcomes
  obtain ⟨e', d, hcode, hd, hrun⟩ := hcomes.run_error (keeps_ofArguments s a threshold)
  have hstages : (stages l s a threshold).run.run (Desk.ofArguments s a threshold) =
      (.error e', d) := by
    rw [stages, run_bind, hrun]
  obtain ⟨hexit, houtput, hfiles⟩ := runArguments_of_error hlevel hstages
  exact ⟨hexit.trans hcode, houtput, hfiles ▸ (hd.write _).logged⟩

theorem runArguments_printed (hlevel : a.threshold = .ok threshold) (hapart : a.LogIsApart s.files)
    (h : drafted l s a Json.standIn = .ok text) (hout : a.outPath? = none) :
    (runArguments l s a).exitCode = (if isWhole l s a threshold text then 0 else 1) ∧
      (runArguments l s a).output =
        (if isWhole l s a threshold text then printed (finish a text) else "") ∧
      Files.Logged (a.logPlace? s.files) s.files (runArguments l s a).files := by
  obtain ⟨d, hd, hrun⟩ := run_stages_of_drafted threshold hapart h
  rw [run_putOut_printed hout] at hrun
  cases hwhole : isWhole l s a threshold text with
  | true =>
    rw [hwhole] at hrun
    obtain ⟨hcode, houtput, hfiles⟩ := runArguments_of_ok hlevel hrun
    exact ⟨hcode, houtput, hfiles ▸ hd.logged⟩
  | false =>
    rw [hwhole] at hrun
    obtain ⟨hcode, houtput, hfiles⟩ := runArguments_of_error hlevel hrun
    exact ⟨hcode, houtput, hfiles ▸ (hd.write _).logged⟩

theorem runArguments_unwritable {path : Path} (hlevel : a.threshold = .ok threshold)
    (hapart : a.LogIsApart s.files) (h : drafted l s a Json.standIn = .ok text)
    (hout : a.outPath? = some path) (hplace : ∀ place, s.files.locateWritable path ≠ .ok place) :
    (runArguments l s a).exitCode = 7 ∧ (runArguments l s a).output = "" ∧
      Files.Logged (a.logPlace? s.files) s.files (runArguments l s a).files := by
  obtain ⟨d, hd, hrun⟩ := run_stages_of_drafted threshold hapart h
  rw [run_putOut_file hout] at hrun
  cases hd' : d.files.locateWritable path with
  | ok place => exact absurd (hd.logged.locateWritable.2 hd') (hplace place)
  | error e =>
    rw [hd'] at hrun
    obtain ⟨hcode, houtput, hfiles⟩ := runArguments_of_error hlevel hrun
    exact ⟨hcode, houtput, hfiles ▸ (hd.write _).logged⟩

/-- The file of the output holds a text, and all else is as it was but for the log. -/
structure HasWritten (files : Files) (log : Option Place) (path : Path) (place : Place)
    (text : String) (after : Files) : Prop where
  located : after.locate path = .ok place
  found : after.find? place = some (.file text.toUTF8)
  agree : Files.AgreeBut (place :: log.toList) files after

/-- A desk where a text was put into a file elsewhere than the log, and then the log has grown. -/
theorem hasWritten_of_store {files : Files} {log : Option Place} {path : Path} {place : Place}
    {d : Desk} (hd : d.Keeps files log) (hplace : files.locateWritable path = .ok place)
    (havoids : files.Avoids log path) (text : String) (r : Log.Record) :
    HasWritten files log path place text
      ({ d with files := d.files.store place text.toUTF8 }.write r).files := by
  have hplace' := hd.logged.locateWritable.1 hplace
  have hstored : Desk.Keeps (d.files.store place text.toUTF8) log
      { d with files := d.files.store place text.toUTF8 } :=
    ⟨hd.place, hd.logged.store hplace havoids _⟩
  have hfinal := (hstored.write r).logged
  obtain ⟨hlocate, hfind⟩ := Files.find?_of_locate_store text.toUTF8 hplace'
  have hother : place ∉ log := fun hmem =>
    havoids place hmem (Files.locateWritable_eq_ok_iff.1 hplace).1
  have hlog : log.toList ⊆ place :: log.toList := List.subset_cons_self place _
  have hstore : Files.AgreeBut (place :: log.toList) d.files (d.files.store place text.toUTF8) :=
    (Files.AgreeBut.store
      (Files.hasWay_of_locate (Files.locateWritable_eq_ok_iff.1 hplace').1) _).mono
      (List.cons_subset_cons place (List.nil_subset _))
  exact {
    located := hfinal.locate.1 hlocate
    found := (hfinal.find hother).symm.trans hfind
    agree := ((hd.logged.agree.mono hlog).trans hstore).trans (hfinal.agree.mono hlog) }

theorem runArguments_file {path : Path} {place : Place} (hlevel : a.threshold = .ok threshold)
    (hapart : a.LogIsApart s.files) (h : drafted l s a Json.standIn = .ok text)
    (hout : a.outPath? = some path) (hplace : s.files.locateWritable path = .ok place) :
    (runArguments l s a).exitCode = (if isWhole l s a threshold text then 0 else 1) ∧
      (runArguments l s a).output = "" ∧
      HasWritten s.files (a.logPlace? s.files) path place
        (if isWhole l s a threshold text then finish a text else "") (runArguments l s a).files := by
  obtain ⟨d, hd, hrun⟩ := run_stages_of_drafted threshold hapart h
  have havoids := hapart.out path hout
  rw [run_putOut_file hout, hd.logged.locateWritable.1 hplace] at hrun
  cases hwhole : isWhole l s a threshold text with
  | true =>
    rw [hwhole] at hrun
    obtain ⟨hcode, houtput, hfiles⟩ := runArguments_of_ok hlevel hrun
    exact ⟨hcode, houtput, hfiles ▸ hasWritten_of_store hd hplace havoids _ _⟩
  | false =>
    rw [hwhole] at hrun
    obtain ⟨hcode, houtput, hfiles⟩ := runArguments_of_error hlevel hrun
    exact ⟨hcode, houtput, hfiles ▸ hasWritten_of_store hd hplace havoids _ _⟩

end

/-! ### How far a run comes -/

/-- The arguments are understood, and the log is set up. -/
structure Starts (s : Surroundings) (a : Arguments) : Prop where
  parsed : parseArguments s.environment s.words = .ok a
  leveled : ∃ threshold, a.threshold = .ok threshold

/-- No indentation is below zero. -/
structure Begins (s : Surroundings) (a : Arguments) : Prop extends Starts s a where
  indent : ∀ n ∈ a.indent, 0 ≤ n

/-- The config is loaded and gives settings. -/
structure SetsUp (l : Libraries) (s : Surroundings) (a : Arguments) (settings : Settings) : Prop
    extends Begins s a where
  built : ∃ members, loaded l s.files a Json.standIn = .ok members ∧
    (Settings.build members a.linkUnderline).outcome.1 = .ok settings

/-- The source is read from the input. -/
structure Supplies (l : Libraries) (s : Surroundings) (a : Arguments) (settings : Settings)
    (source : String) : Prop extends SetsUp l s a settings where
  supplied : sourceOf s a = .ok source

/-- The source is read as a document. -/
structure Understands (l : Libraries) (s : Surroundings) (a : Arguments) (settings : Settings)
    (source : String) (doc : Node) : Prop extends Supplies l s a settings source where
  understood : parseBy l.tokens source a.source (settings.readerOptions a.source) = .ok doc

/-- There is a text of the document. -/
structure Drafts (l : Libraries) (s : Surroundings) (a : Arguments) (settings : Settings)
    (source : String) (doc : Node) (text : String) : Prop
    extends Understands l s a settings source doc where
  written : ∃ writer,
    Writer.make a.target (settings.writerOptions a.target a.indent) = .ok writer ∧
      writer.write settings.context doc = .ok text

section

variable {l : Libraries} {s : Surroundings} {a : Arguments} {settings : Settings}
  {source text : String} {doc : Node}

theorem Begins.drafted_eq (h : Begins s a) (l : Libraries) :
    drafted l s a Json.standIn = (do
      let members ← loaded l s.files a Json.standIn
      let settings ← (Settings.build members a.linkUnderline).outcome.1
      let source ← sourceOf s a
      compiled l a Json.standIn settings source) := by
  rw [drafted, checkedIndent_eq_ok_iff.2 h.indent]
  rfl

theorem SetsUp.drafted_eq (h : SetsUp l s a settings) :
    drafted l s a Json.standIn = (sourceOf s a >>= compiled l a Json.standIn settings) := by
  obtain ⟨members, hload, hbuild⟩ := h.built
  rw [h.toBegins.drafted_eq, hload]
  simp only [bind, Except.bind, hbuild]

theorem Supplies.drafted_eq (h : Supplies l s a settings source) :
    drafted l s a Json.standIn = compiled l a Json.standIn settings source := by
  rw [h.toSetsUp.drafted_eq, h.supplied]
  rfl

theorem Understands.drafted_eq (h : Understands l s a settings source doc) :
    drafted l s a Json.standIn =
      (Writer.make a.target (settings.writerOptions a.target a.indent) >>=
        fun writer => writer.write settings.context doc) := by
  rw [h.toSupplies.drafted_eq, compiled, h.understood]
  rfl

theorem Drafts.drafted_eq (h : Drafts l s a settings source doc text) :
    drafted l s a Json.standIn = .ok text := by
  obtain ⟨writer, hmake, hwrite⟩ := h.written
  rw [h.toUnderstands.drafted_eq, hmake]
  exact hwrite

theorem run_of_parsed (h : parseArguments s.environment s.words = .ok a) :
    run l s = runArguments l s a := by
  unfold run
  rw [h]

theorem run_of_stop {stop : Stop} (h : parseArguments s.environment s.words = .error stop) :
    (run l s).files = s.files ∧
      ((run l s).exitCode = 0 ∧ (∀ e, stop ≠ .error e) ∨
        (run l s).exitCode = 2 ∧ (run l s).output = "" ∧ ∃ e, stop = .error e) := by
  unfold run
  rw [h]
  cases stop with
  | error e => simp
  | help => simp
  | version => simp

end

end Vitae.CommandLine
