import Vitae.CommandLine.Run
import Vitae.Proofs.Files

/-!
# Stages and the log

A log that grows in a file of its own makes no difference to what a stage comes to: at any desk at
which nothing but the log has grown the result is the same, but perhaps for the wording of a
failure. So the stages before the output come to what they come to without a desk.
-/

namespace Vitae

theorem Config.mapError_load_of_not_isFile {files : Files} {path : Path}
    (h : files.isFile path ≠ .ok true) (yaml : String → Option Json) (half : Char) :
    (Config.load yaml files path half).mapError Failure.exitCode = .error 4 := by
  unfold Config.load
  cases hfile : files.isFile path with
  | error e => rfl
  | ok found =>
    cases found with
    | false => rfl
    | true => exact absurd hfile h

namespace CommandLine

/-! ### The desk -/

/-- A desk at which nothing but the log has grown. -/
structure Desk.Keeps (files : Files) (log : Option Place) (d : Desk) : Prop where
  place : d.logPlace = log
  logged : Files.Logged log files d.files

namespace Desk.Keeps

variable {files : Files} {log : Option Place} {d : Desk}

theorem write (h : d.Keeps files log) (r : Log.Record) : (d.write r).Keeps files log := by
  unfold Desk.write
  split
  · cases log with
    | none =>
      refine ⟨h.place, ?_⟩
      rw [h.place]
      exact h.logged
    | some place =>
      refine ⟨h.place, ?_⟩
      rw [h.place]
      exact h.logged.append _
  · exact h

theorem writeAll (h : d.Keeps files log) (records : List Log.Record) :
    (d.writeAll records).Keeps files log := by
  unfold Desk.writeAll
  induction records generalizing d with
  | nil => exact h
  | cons r records ih => exact ih (h.write r)

end Desk.Keeps

/-! ### Paths -/

namespace Arguments

/-- The path that a name stands for, unless the name is the one that stands for none. -/
def pathUnless (blank : String) : Option String → Option Path
  | some name => if name = blank then none else some (Path.ofString name)
  | none => none

def configPath? (a : Arguments) : Option Path := pathUnless "" a.config

def inputPath? (a : Arguments) : Option Path := pathUnless "-" a.input

def outPath? (a : Arguments) : Option Path := pathUnless "" a.out

/-- The place of the log file, if it can be opened. -/
def logPlace? (a : Arguments) (files : Files) : Option Place :=
  (pathUnless "" a.logFile).bind fun path => (files.locateWritable (files.absolute path)).toOption

/-- Does the log lie in a file that is not named for anything else? -/
structure LogIsApart (files : Files) (a : Arguments) : Prop where
  config : ∀ path ∈ a.configPath?, files.Avoids (a.logPlace? files) path
  input : ∀ path ∈ a.inputPath?, files.Avoids (a.logPlace? files) path
  out : ∀ path ∈ a.outPath?, files.Avoids (a.logPlace? files) path

end Arguments

theorem keeps_openLog {d : Desk} {files : Files} (hfiles : d.files = files)
    (hlog : d.logPlace = none) (name : String) :
    (d.openLog name).Keeps files
      (files.locateWritable (files.absolute (Path.ofString name))).toOption := by
  subst hfiles
  unfold Desk.openLog
  dsimp only
  split
  · rename_i place hplace
    rw [hplace]
    have hkeeps : Desk.Keeps d.files (some place)
        { d with files := d.files.append place "", logPlace := some place } :=
      ⟨rfl, .start hplace ""⟩
    exact hkeeps.write _
  · rename_i e hplace
    rw [hplace]
    have hkeeps : d.Keeps d.files none := ⟨hlog, .none d.files⟩
    exact hkeeps.write _

theorem keeps_ofArguments (s : Surroundings) (a : Arguments) (threshold : Int) :
    (Desk.ofArguments s a threshold).Keeps s.files (a.logPlace? s.files) := by
  unfold Desk.ofArguments Arguments.logPlace?
  cases a.logFile with
  | none => exact ⟨rfl, .none s.files⟩
  | some name =>
    by_cases hname : name = ""
    · simp only [Arguments.pathUnless, hname, if_true]
      exact ⟨rfl, .none s.files⟩
    · simp only [Arguments.pathUnless, hname, if_false]
      refine keeps_openLog ?_ ?_ name
      · rfl
      · rfl

/-! ### The stages -/

section

variable {files : Files} {log : Option Place}

theorem comes_note (level : Log.Level) (source message : String) :
    Comes (Desk.Keeps files log) (note level source message) (.ok ()) :=
  .modify fun _ h => h.write _

theorem comes_writeAll (records : List Log.Record) :
    Comes (Desk.Keeps files log) (modify (·.writeAll records) : Stage PUnit) (.ok ()) :=
  .modify fun _ h => h.writeAll records

theorem comes_ofNoted {α : Type} (x : Log.Noted α) :
    Comes (Desk.Keeps files log) (ofNoted x) x.outcome.1 :=
  (comes_writeAll x.outcome.2).bind fun _ _ => .ofExcept x.outcome.1

def checkedIndent (a : Arguments) : Except Failure Unit :=
  match a.indent with
  | some n =>
    if n < 0 then .error (.validation "--indent must be non-negative" (some "indent") none)
    else .ok ()
  | none => .ok ()

theorem checkedIndent_eq_ok_iff {a : Arguments} :
    checkedIndent a = .ok () ↔ ∀ n ∈ a.indent, 0 ≤ n := by
  unfold checkedIndent
  cases a.indent with
  | none => simp
  | some n =>
    by_cases hn : n < 0
    · simp [hn]
    · simp [hn, Int.not_lt.1 hn]

theorem comes_checkIndent (a : Arguments) :
    Comes (Desk.Keeps files log) (checkIndent a) (checkedIndent a) := by
  unfold checkIndent checkedIndent
  cases a.indent with
  | none => exact .pure ()
  | some n =>
    by_cases hn : n < 0
    · simp only [hn, if_true]
      exact .ofExcept (.error _)
    · simp only [hn, if_false]
      exact .pure ()

/-- The members of the config, if a file is named for it. -/
def loaded (l : Libraries) (files : Files) (a : Arguments) (half : Char) :
    Except Failure (List (String × Json)) :=
  match a.configPath? with
  | none => .ok []
  | some path => Config.load l.yaml files path half

/-- Where the log has grown elsewhere loading comes to the same; that there is no file may be said in
another way. -/
theorem mapError_load_eq {d : Desk} (h : d.Keeps files log) {path : Path}
    (havoids : files.Avoids log path) (yaml : String → Option Json) (half : Char) :
    (Config.load yaml d.files path half).mapError Failure.exitCode =
      (Config.load yaml files path half).mapError Failure.exitCode := by
  have hread := h.logged.read havoids
  by_cases hfile : files.isFile path = .ok true
  · have hfile' := (h.logged.isFile havoids).1 hfile
    unfold Config.load
    rw [hfile, hfile']
    dsimp only
    cases Config.formatOf? path with
    | none => rfl
    | some format =>
      rcases eq_or_errors_of_ok_iff hread with hsame | ⟨e, e', hbefore, hafter⟩
      · rw [hsame]
      · rw [hbefore, hafter]
        rfl
  · have hfile' : d.files.isFile path ≠ .ok true := fun hd => hfile ((h.logged.isFile havoids).2 hd)
    rw [Config.mapError_load_of_not_isFile hfile, Config.mapError_load_of_not_isFile hfile']

theorem comes_loadConfig {a : Arguments} (havoids : ∀ path ∈ a.configPath?, files.Avoids log path)
    (l : Libraries) (half : Char) :
    Comes (Desk.Keeps files log) (loadConfig l a half) (loaded l files a half) := by
  unfold loadConfig loaded Arguments.configPath? at *
  cases hconfig : a.config with
  | none => exact .pure []
  | some name =>
    by_cases hname : name = ""
    · simp only [Arguments.pathUnless, hname, if_true]
      exact .pure []
    · simp only [hconfig, Arguments.pathUnless, hname, if_false] at havoids ⊢
      refine .get fun d hd => ?_
      refine Comes.congr ?_ (mapError_load_eq hd (havoids _ rfl) l.yaml half)
      exact (Comes.ofExcept _).tap fun members => comes_note _ _ _

def contentOf (s : Surroundings) (a : Arguments) : Except Failure ByteArray :=
  match a.inputPath? with
  | none => .ok s.input
  | some path => (s.files.read path).mapError (·.failure path.text)

/-- The source: the text of the input file or, if none is named, of the standard input. -/
def sourceOf (s : Surroundings) (a : Arguments) : Except Failure String := do
  Config.lineTextOf (← contentOf s a)

theorem comes_readSource {s : Surroundings} {a : Arguments}
    (havoids : ∀ path ∈ a.inputPath?, s.files.Avoids log path) :
    Comes (Desk.Keeps s.files log) (readSource s a) (sourceOf s a) := by
  have hstandard : Comes (Desk.Keeps s.files log) (Pure.pure s.input >>= fun content =>
      liftM (Config.lineTextOf content)) (Config.lineTextOf s.input) :=
    (Comes.pure s.input).bind fun content _ => .ofExcept _
  unfold readSource sourceOf contentOf Arguments.inputPath? at *
  cases hinput : a.input with
  | none => exact hstandard
  | some name =>
    by_cases hname : name = "-"
    · simp only [Arguments.pathUnless, hname, if_true]
      exact hstandard
    · simp only [hinput, Arguments.pathUnless, hname, if_false] at havoids ⊢
      refine .get fun d hd => ?_
      have hread := hd.logged.read (havoids _ rfl)
      rcases eq_or_errors_of_ok_iff hread with hsame | ⟨e, e', hbefore, hafter⟩
      · rw [← hsame]
        cases s.files.read (Path.ofString name) with
        | ok content => exact (Comes.pure content).bind fun content _ => .ofExcept _
        | error e => exact .ofExcept (.error _)
      · rw [hbefore, hafter]
        exact Comes.congr (Comes.ofExcept (.error _)) rfl

/-- What a source compiles to with the options of the settings. -/
def compiled (l : Libraries) (a : Arguments) (half : Char) (settings : Settings) (source : String) :
    Except Failure String := do
  let doc ← parseBy l.tokens source a.source (settings.readerOptions a.source) half
  let writer ← Writer.make a.target (settings.writerOptions a.target a.indent)
  writer.write settings.context doc

theorem comes_compileSource (l : Libraries) (a : Arguments) (half : Char) (settings : Settings)
    (source : String) :
    Comes (Desk.Keeps files log) (compileSource l a half settings source)
      (compiled l a half settings source) := by
  unfold compileSource compiled
  refine (comes_note _ _ _).after ?_
  refine (Comes.ofExcept _).bind fun doc _ => (comes_writeAll _).after ?_
  refine (Comes.ofExcept _).bind fun writer _ => ?_
  exact (Comes.ofExcept _).tap fun text => comes_writeAll _

/-- What the stages before the output come to. -/
def drafted (l : Libraries) (s : Surroundings) (a : Arguments) (half : Char) :
    Except Failure String := do
  checkedIndent a
  let members ← loaded l s.files a half
  let settings ← (Settings.build members a.linkUnderline).outcome.1
  let source ← sourceOf s a
  compiled l a half settings source

variable {s : Surroundings} {a : Arguments}

theorem comes_drafting (hapart : a.LogIsApart s.files) (l : Libraries) (half : Char) :
    Comes (Desk.Keeps s.files (a.logPlace? s.files)) (drafting l s a half) (drafted l s a half) := by
  refine (comes_checkIndent a).bind fun _ _ => ?_
  refine (comes_loadConfig hapart.config l half).bind fun members _ => ?_
  refine (comes_ofNoted _).bind fun settings _ => ?_
  refine (comes_readSource hapart.input).bind fun source _ => ?_
  exact comes_compileSource l a half settings source

/-- The text that is drafted has no half of a surrogate pair in it: it is the same with another
character in their place. -/
def IsWhole (l : Libraries) (s : Surroundings) (a : Arguments) (text : String) : Prop :=
  drafted l s a (Char.ofNat 0xFFFE) = .ok text

theorem isWhole_eq_true_iff (hapart : a.LogIsApart s.files) {l : Libraries} {threshold : Int}
    {text : String} : isWhole l s a threshold text = true ↔ IsWhole l s a text := by
  have hcomes := comes_drafting hapart l (Char.ofNat 0xFFFE)
  have hkeeps := keeps_ofArguments s a threshold
  unfold isWhole IsWhole
  cases hdrafted : drafted l s a (Char.ofNat 0xFFFE) with
  | ok other =>
    rw [hdrafted] at hcomes
    obtain ⟨d, -, hrun⟩ := hcomes.run_ok hkeeps
    rw [hrun]
    simp
  | error e =>
    rw [hdrafted] at hcomes
    obtain ⟨e', d, -, -, hrun⟩ := hcomes.run_error hkeeps
    rw [hrun]
    simp

/-! ### The output -/

theorem Arguments.outPath?_eq (a : Arguments) :
    (a.out.bind fun name => if name = "" then none else some (Path.ofString name)) = a.outPath? := by
  unfold Arguments.outPath?
  cases a.out <;> rfl

theorem run_putOut_printed (hout : a.outPath? = none) (whole : Bool) (text : String) (d : Desk) :
    (putOut a whole text).run.run d =
      (if whole then .ok (printed text) else .error .badText, d) := by
  unfold putOut
  rw [a.outPath?_eq, hout]
  cases whole <;> rfl

/-- A text that is put into a file: it is sent there, which is noted. -/
theorem run_putOut_file {path : Path} (hout : a.outPath? = some path) (whole : Bool) (text : String)
    (d : Desk) :
    (putOut a whole text).run.run d = match d.files.locateWritable path with
      | .error e => (.error (e.renderingFailure path), d)
      | .ok place =>
        if whole then
          (.ok "", { d with files := d.files.store place text.toUTF8 }.write
            ⟨.debug, "resumark.renderers.base",
              s!"Wrote {text.length} characters to {path.text}", false⟩)
        else (.error .badText, { d with files := d.files.store place "".toUTF8 }) := by
  have hget : (get : Stage Desk).run.run d = (.ok d, d) := rfl
  have hsend : ∀ r : Except Failure Sink, (liftM r : Stage Sink).run.run d = (r, d) := fun r => rfl
  unfold putOut
  rw [a.outPath?_eq, hout]
  dsimp only
  rw [run_bind, hget]
  dsimp only
  rw [run_bind, hsend, Destination.send, Files.write]
  cases d.files.locateWritable path with
  | error e => rfl
  | ok place => cases whole <;> rfl

end

end CommandLine

end Vitae
