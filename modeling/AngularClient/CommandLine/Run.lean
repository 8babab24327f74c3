import AngularClient.CommandLine.Reader
import AngularClient.Config.Loading
import AngularClient.Console
import AngularClient.Files.Output
import AngularClient.Module.Generation
import AngularClient.Registry.Reader

namespace AngularClient

inductive RunError
  | config (e : Config.LoadError)
  | options (e : OptionsError)
  | unreadableRegistry (path : String)
  | invalidRegistry (path : String)
  | generation (e : GenerationError)
  | nothingToCheck
  | unreadableOutput (path : String)
  | outdatedOutput (path : String)
  | unwritableOutput (path : String)
  deriving DecidableEq

def RunError.message : RunError → String
  | .config e => e.message
  | .options e => e.message
  | .unreadableRegistry path => s!"Failed to read registry '{path}'"
  | .invalidRegistry path => s!"Invalid registry '{path}'"
  | .generation e => e.message
  | .nothingToCheck => "--check needs an output path (argument or [output] path in lbng.toml)"
  | .unreadableOutput path => s!"Failed to read {path}"
  | .outdatedOutput path => s!"{path} is out of date, run `lbng generate` to refresh it"
  | .unwritableOutput path => s!"Failed to write {path}"

structure Surroundings where
  environment : Option String
  colours : Bool

structure Outcome where
  files : FileStore
  stdout : String
  stderr : String
  result : Except RunError Unit

namespace Outcome

def silent (files : FileStore) (result : Except RunError Unit) : Outcome := ⟨files, "", "", result⟩

def after (stderr : String) (r : Outcome) : Outcome := { r with stderr := stderr ++ r.stderr }

end Outcome

namespace Registry

def load (files : FileStore) (path : String) : Except RunError Registry :=
  match files.readText? path with
  | none => .error (.unreadableRegistry path)
  | some text => (Registry.ofText text).mapError fun _ => .invalidRegistry path

end Registry

namespace Model

def summary (colours : Bool) (m : Model) : String :=
  let method := fun (m : Method) =>
    s!"  {m.name}" ++ (if m.internal.isSome then " (internal)" else "") ++ "\n"
  let scope := fun ((name, s) : String × Scope) =>
    "  " ++ Style.cyan.paint colours "scope" ++ s!" {name} {s.target}\n"
      ++ String.join (s.methods.keys.map fun apiName => s!"    .{apiName}\n")
  Style.bold.paint colours m.name ++ " " ++ Style.dimmed.paint colours m.restPath ++ "\n"
    ++ String.join (m.methods.map method) ++ String.join (m.resolvedScopes.map scope)

end Model

def ModelSet.summary (colours : Bool) (set : ModelSet) : String :=
  String.join (set.map (Model.summary colours)) ++ s!"{set.length} models\n"

namespace Command

variable (s : Surroundings) (files : FileStore)

def describeFile (input : String) : Outcome :=
  let read : Except RunError (Config × Registry) := do
    let config ← (Config.loadOrDefault s.environment files).mapError .config
    config.options.validate.mapError .options
    return (config, ← Registry.load files input)
  match read with
  | .error e => .silent files (.error e)
  | .ok (config, r) =>
    { files := files
      stdout := (r.describe config.options).summary s.colours
      stderr := Console.remarks s.colours ((r.notices config.options).map (·.remark))
      result := .ok () }

def checkFile (path generated : String) : Outcome :=
  match Output.compare files path generated with
  | .unreadable => .silent files (.error (.unreadableOutput path))
  | .upToDate => ⟨files, "", Console.success s.colours s!"{path} is up to date", .ok ()⟩
  | .outdated diff => ⟨files, diff, "", .error (.outdatedOutput path)⟩

def writeFile (path generated : String) : Outcome :=
  let said := if files.contains path then Console.updated else Console.created
  match Output.write files path generated with
  | (files, true) => ⟨files, "", said s.colours path, .ok ()⟩
  | (files, false) => .silent files (.error (.unwritableOutput path))

def deliver (check : Bool) (path : Option String) (generated : String) : Outcome :=
  match path, check with
  | some path, true => checkFile s files path generated
  | some path, false => writeFile s files path generated
  | none, true => .silent files (.error .nothingToCheck)
  | none, false => ⟨files, generated, "", .ok ()⟩

def generateFile (c : GenerateCommand) : Outcome :=
  let read : Except RunError (Config × Registry) := do
    let config ← (Config.loadOrDefault s.environment files).mapError .config
    return (config, ← Registry.load files c.input)
  match read with
  | .error e => .silent files (.error e)
  | .ok (config, r) =>
    let options := c.apply config.options
    let outcome := match r.generate options with
      | .error e => Outcome.silent files (.error (.generation e))
      | .ok text => deliver s files (c.has .check) (c.output <|> config.outputPath) text
    outcome.after (Console.remarks s.colours (r.remarks options))

/-- Runs a command.  The script by which a shell completes commands is left out: it says nothing but
what the grammars of the commands do. -/
def run : Command → Outcome
  | .generate c => generateFile s files c
  | .describe input => describeFile s files input
  | .completions _ => .silent files (.ok ())

end Command

end AngularClient
