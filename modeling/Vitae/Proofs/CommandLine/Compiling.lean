import Mathlib.Control.Monad.Basic
import Vitae.Proofs.CommandLine.Halves
import Vitae.Proofs.CommandLine.Run
import Vitae.Proofs.Underlining

/-!
# Compiling by a run

A run that does not fail puts out what compiling its source with its settings comes to.
-/

namespace Vitae.CommandLine

section

variable {l : Libraries} {s : Surroundings} {a : Arguments} {settings : Settings}
  {source text : String} {value : Json}

theorem compiled_eq_compileBy (l : Libraries) (a : Arguments) (half : Char) (source : String)
    (hcontext : Context.ofValue value = .ok settings.context) :
    compiled l a half settings source = compileBy l.tokens source a.source a.target value
      (settings.readerOptions a.source) (settings.writerOptions a.target a.indent) half := by
  simp only [compiled, compileBy, generate, Writer.generate_eq_write _ hcontext]

/-- A run puts out what compiling the source with the settings comes to, as a command's argument if
that is asked for and it is LaTeX: into the file that is named for it, or else as what it prints,
with a line end if one is missing. No other file changes but the log. What is asked for is said by
the words before the environment. -/
theorem run_compile (hsupplies : Supplies l s a settings source) (hapart : a.LogIsApart s.files)
    (hcontext : Context.ofValue value = .ok settings.context)
    (hcompile : compileBy l.tokens source a.source a.target value (settings.readerOptions a.source)
      (settings.writerOptions a.target a.indent) = .ok text)
    (hwhole : IsWhole l s a text)
    (hwritable : ∀ path, a.outPath? = some path →
      ∃ place, s.files.locateWritable path = .ok place) :
    (∃ ws, classifyAll s.words = .ok ws ∧ a.Obeys s.environment ws) ∧
    (run l s).exitCode = 0 ∧
    ∃ out : String,
      (a.cventry = true ∧ a.target = "latex" → out = String.ofList (Latex.argument text.toList)) ∧
      (¬ (a.cventry = true ∧ a.target = "latex") → out = text) ∧
      (∀ path, a.outPath? = some path → (run l s).output = "" ∧
        ∃ place, s.files.locate path = .ok place ∧ (run l s).files.locate path = .ok place ∧
          (run l s).files.find? place = some (.file out.toUTF8) ∧
          Files.AgreeBut (place :: (a.logPlace? s.files).toList) s.files (run l s).files) ∧
      (a.outPath? = none →
        (run l s).output = (if out = "" ∨ out.endsWith "\n" then out else out ++ "\n") ∧
        Files.AgreeBut (a.logPlace? s.files).toList s.files (run l s).files) := by
  obtain ⟨threshold, hlevel⟩ := hsupplies.leveled
  have hdrafted : drafted l s a Json.standIn = .ok text := by
    rw [hsupplies.drafted_eq, compiled_eq_compileBy l a _ source hcontext]
    exact hcompile
  have htrue : isWhole l s a threshold text = true := (isWhole_eq_true_iff hapart).2 hwhole
  rw [run_of_parsed hsupplies.parsed]
  refine ⟨obeys_of_parseArguments hsupplies.parsed, ?_, finish a text, ?_, ?_, ?_, ?_⟩
  · cases hout : a.outPath? with
    | none => rw [(runArguments_printed hlevel hapart hdrafted hout).1, if_pos htrue]
    | some path =>
      obtain ⟨place, hplace⟩ := hwritable path hout
      rw [(runArguments_file hlevel hapart hdrafted hout hplace).1, if_pos htrue]
  · rintro ⟨hcventry, htarget⟩
    simp [finish, hcventry, htarget]
  · intro hplain
    have hfinish : (a.cventry && decide (a.target = "latex")) = false := by simpa using hplain
    simp [finish, hfinish]
  · intro path hout
    obtain ⟨place, hplace⟩ := hwritable path hout
    obtain ⟨_, houtput, hwritten⟩ := runArguments_file hlevel hapart hdrafted hout hplace
    rw [if_pos htrue] at hwritten
    exact ⟨houtput, place, (Files.locateWritable_eq_ok_iff.1 hplace).1, hwritten.located,
      hwritten.found, hwritten.agree⟩
  · intro hout
    obtain ⟨_, houtput, hlogged⟩ := runArguments_printed hlevel hapart hdrafted hout
    refine ⟨?_, hlogged.agree⟩
    rw [houtput, if_pos htrue, printed]
    simp

end

/-- A run that writes its output over its input. -/
def inPlaceRun : Surroundings where
  words := ["cv.md", "--to", "tree", "--to=latex", "--cventry", "-o", "./cv.md", "--log-file", "log"]
  environment := [("RESUMARK_TO", "html")]
  files := { entries := [(["cv.md"], .file "a\n\n*b*".toUTF8)] }

def inPlaceArguments : Arguments where
  input := some "cv.md"
  source := "markdown"
  target := "latex"
  out := some "./cv.md"
  cventry := true
  logLevel := "WARNING"
  logFile := some "log"

theorem run_compile_in_place :
    Supplies .simple inPlaceRun inPlaceArguments {} "a\n\n*b*" ∧
      inPlaceArguments.LogIsApart inPlaceRun.files ∧
      (run .simple inPlaceRun).exitCode = 0 ∧ (run .simple inPlaceRun).output = "" ∧
      (run .simple inPlaceRun).files.find? ["cv.md"] =
        some (.file "a\n%\n\\textit\x7bb\x7d".toUTF8) := by
  have hparse : parseArguments inPlaceRun.environment inPlaceRun.words = .ok inPlaceArguments :=
    rfl
  have hlog : inPlaceArguments.logPlace? inPlaceRun.files = some ["log"] := rfl
  have hapart : inPlaceArguments.LogIsApart inPlaceRun.files := by
    refine ⟨nofun, ?_, ?_⟩
    · rw [hlog]
      rintro _ ⟨⟩ _ ⟨⟩
      decide +kernel
    · rw [hlog]
      rintro _ ⟨⟩ _ ⟨⟩
      decide +kernel
  have hsupplies : Supplies .simple inPlaceRun inPlaceArguments {} "a\n\n*b*" :=
    { parsed := hparse, leveled := ⟨_, rfl⟩, indent := nofun, built := ⟨[], rfl, rfl⟩,
      supplied := rfl }
  have hcompile : compileBy Libraries.simple.tokens "a\n\n*b*" "markdown" "latex" .null
      (({} : Settings).readerOptions "markdown") (({} : Settings).writerOptions "latex" none) =
        .ok "a\n\n\\textit\x7bb\x7d\n\n" := by decide +kernel
  have hnone : HasNoHalf inPlaceRun inPlaceArguments := ⟨nofun, nofun⟩
  have hwhole : IsWhole .simple inPlaceRun inPlaceArguments "a\n\n\\textit\x7bb\x7d\n\n" := by
    have hcontext : Context.ofValue .null = .ok ({} : Settings).context := rfl
    refine hnone.isWhole ?_
    rw [hsupplies.drafted_eq, compiled_eq_compileBy _ _ _ _ hcontext]
    exact hcompile
  have hout : inPlaceArguments.outPath? = some (Path.ofString "cv.md") := rfl
  have hplace : inPlaceRun.files.locateWritable (Path.ofString "cv.md") = .ok ["cv.md"] := rfl
  obtain ⟨_, hcode, out, hargument, _, hfile, _⟩ := run_compile hsupplies hapart rfl hcompile hwhole
    fun path hpath => ⟨["cv.md"], by
      rw [hout] at hpath
      cases hpath
      exact hplace⟩
  obtain ⟨houtput, place, hlocate, _, hfind, _⟩ := hfile _ hout
  cases hlocate
  rw [hargument ⟨rfl, rfl⟩] at hfind
  have htext : String.ofList (Latex.argument "a\n\n\\textit\x7bb\x7d\n\n".toList) =
      "a\n%\n\\textit\x7bb\x7d" := by decide +kernel
  rw [htext] at hfind
  exact ⟨hsupplies, hapart, hcode, houtput, hfind⟩

end Vitae.CommandLine
