import Std.Time.Format
import Vitae.CommandLine.Run

/-!
# The program

Gathers what a run finds, runs, and carries out what the run leaves.
-/

namespace Vitae.Program

def placeText (place : Place) : String := "/" ++ "/".intercalate place

/-- What lies at a place, and what the system says if it may not be read. -/
def entryAt (place : Place) : IO (Option (Entry × Option SystemError)) := do
  try
    let content ← IO.FS.readBinFile (placeText place)
    return some (.file content, none)
  catch e =>
    match e with
    | .inappropriateType .. => return some (.folder, none)
    | .permissionDenied .. => return some (.file ByteArray.empty, some ⟨13, "Permission denied"⟩)
    | _ => return none

/-- What lies on the way along some names from a place, up to what is no folder. -/
def filesAlong (files : Files) (place : Place) : List String → IO Files
  | [] => return files
  | name :: names => do
    let there := place ++ [name]
    match ← entryAt there with
    | some (entry, refusal?) =>
      let refusals := (refusal?.map fun e => ((Use.read, there), e)).toList
      let files := { files with
        entries := files.entries ++ [(there, entry)], refusals := files.refusals ++ refusals }
      match entry with
      | .folder => filesAlong files there names
      | .file _ => return files
    | none => return files

def namedPaths (a : CommandLine.Arguments) : List Path :=
  ([a.config, a.logFile, a.input, a.out].filterMap id).map Path.ofString

/-- The files that a run with some arguments can touch. -/
def filesFor (a : CommandLine.Arguments) : IO Files := do
  let home := (Path.ofString (toString (← IO.currentDir))).names
  let mut files : Files := { home }
  for path in namedPaths a do
    files ← filesAlong files [] (files.absolute path).names
  return files

def timeText : IO String := do
  let now ← Std.Time.PlainDateTime.now
  return now.format "uuuu-MM-dd HH:mm:ss"

/-- Writes what has changed; says at which place the system refuses it. -/
def writeChanges (before after : Files) : IO (Option ((Use × Place) × SystemError)) := do
  for (place, entry) in after.entries do
    if before.entries.lookup place ≠ some entry then
      if let .file content := entry then
        try
          IO.FS.writeBinFile (placeText place) content
        catch e =>
          match e with
          | .permissionDenied .. => return some ((.write, place), ⟨13, "Permission denied"⟩)
          | e => throw e
  return none

/-- Carries a run out. Where the system refuses to write a file the run is made again, knowing this;
a run writes two files at most. -/
def carryOut : Nat → CommandLine.Surroundings → IO CommandLine.Outcome
  | 0, s => return CommandLine.run .simple s
  | tries + 1, s => do
    let outcome := CommandLine.run .simple s
    match ← writeChanges s.files outcome.files with
    | none => return outcome
    | some refusal =>
      carryOut tries { s with files := { s.files with refusals := refusal :: s.files.refusals } }

def runOnce (words : List String) : IO CommandLine.Outcome := do
  let names := ["RESUMARK_FROM", "RESUMARK_TO", "RESUMARK_LOG_LEVEL"]
  let environment ← names.filterMapM fun name => do
    return (← IO.getEnv name).map fun value => (name, value)
  match CommandLine.parseArguments environment words with
  | .ok a =>
    let files ← filesFor a
    let isPiped := a.input = none || a.input = some "-"
    let input ← if isPiped then (← IO.getStdin).readBinToEnd else pure ByteArray.empty
    carryOut 3 ⟨words, environment, input, files, ← timeText⟩
  | .error _ => return CommandLine.run .simple ⟨words, environment, ByteArray.empty, {}, ""⟩

end Vitae.Program

def main (words : List String) : IO UInt32 := do
  let outcome ← Vitae.Program.runOnce words
  (← IO.getStdout).putStr outcome.output
  (← IO.getStderr).putStr outcome.errors
  return outcome.exitCode.toUInt32
