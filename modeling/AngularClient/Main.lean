import AngularClient.CommandLine.Run

namespace AngularClient

def usage : String :=
  "Usage: lbng generate INPUT [OUTPUT] [FLAGS]\n" ++
  "       lbng describe INPUT\n" ++
  "       lbng completions SHELL\n"

def UsageError.message : UsageError → String
  | .unknownArgument => "unknown argument"
  | .missingArgument => "missing argument"
  | .missingCommand => "missing command"
  | .unknownCommand => "unknown command"
  | .invalidValue => "invalid value"
  | .repeatedArgument => "repeated argument"
  | .surplusValue => "surplus value"
  | .help => usage
  | .version => "lbng 0.1.0\n"

def FileStore.take (files : FileStore) (path : String) : IO FileStore := do
  try return (files.write path (← IO.FS.readBinFile path)).1
  catch _ => return files

def FileStore.save (before after : FileStore) : IO Bool := do
  try
    for (path, entry) in after do
      match entry, before.find? path with
      | .directory, none => IO.FS.createDirAll path
      | .directory, some _ => pure ()
      | .file content, some (.file old) =>
        if content != old then IO.FS.writeBinFile path content
      | .file content, _ => IO.FS.writeBinFile path content
    return true
  catch _ => return false

def Command.outputPath? (s : Surroundings) (files : FileStore) : Command → Option String
  | .generate c =>
    match Config.loadOrDefault s.environment files with
    | .ok config => c.output <|> config.outputPath
    | .error _ => c.output
  | _ => none

def Command.inputPath? : Command → Option String
  | .generate c => c.input
  | .describe input => input
  | .completions _ => none

def Command.gather (s : Surroundings) (c : Command) : IO FileStore := do
  let mut files ← FileStore.take [] Config.basePath
  if let .ok base := Config.readToml files Config.basePath then
    files ← files.take (Config.overlayPath (Config.activeEnvironment s.environment base))
  if let some path := c.inputPath? then files ← files.take path
  if let some path := c.outputPath? s files then files ← files.take path
  return files

def report (e : RunError) : IO UInt32 := do
  IO.eprintln s!"Error: {e.message}"
  return 1

def Command.execute (s : Surroundings) (c : Command) : IO UInt32 := do
  let files ← c.gather s
  let outcome := c.run s files
  if !(← FileStore.save files outcome.files) then
    if let some path := c.outputPath? s files then return ← report (.unwritableOutput path)
  IO.print outcome.stdout
  IO.eprint outcome.stderr
  match outcome.result with
  | .ok () => return 0
  | .error e => report e

end AngularClient

open AngularClient in
def main (args : List String) : IO UInt32 := do
  match Command.ofArgs args with
  | .ok c =>
    let colours := (← (← IO.getStdout).isTty) && (← IO.getEnv "NO_COLOR").isNone
    c.execute { environment := ← IO.getEnv "LBNG_ENV", colours := colours }
  | .error .help =>
    IO.print usage
    return 0
  | .error .version =>
    IO.print UsageError.version.message
    return 0
  | .error e =>
    IO.eprintln s!"error: {e.message}"
    IO.eprint usage
    return 2
