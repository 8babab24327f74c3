import AngularClient.Files.Store
import AngularClient.Options.Reader
import AngularClient.Toml.Basic
import AngularClient.Toml.Reader

namespace AngularClient

structure Config where
  options : Options
  outputPath : Option String
  environment : String
  deriving DecidableEq

namespace Config

open Document (string?)

def defaultEnvironment (processEnvironment : Option String) : String :=
  processEnvironment.getD "development"

def default (processEnvironment : Option String) : Config :=
  ⟨Options.default, none, defaultEnvironment processEnvironment⟩

/-- The output section.  As an array it always has its one field. -/
def outputPath? : Document → Option (Option String)
  | .array items =>
    match items with
    | [path] => (string? path).map some
    | _ => none
  | d => do (← d.record? [["path"]]).optional "path" string?

def environment? (processEnvironment : Option String) (d : Document) : Option String := do
  (← d.record? [["active"]]).withDefault "active" (defaultEnvironment processEnvironment) string?

def ofDocument? (processEnvironment : Option String) (d : Document) : Option Config := do
  let base := default processEnvironment
  let fields ← d.record? [["generator"], ["output"], ["environment"]]
  return {
    options := ← fields.withDefault "generator" base.options Options.ofDocument?
    outputPath := ← fields.withDefault "output" base.outputPath outputPath?
    environment :=
      ← fields.withDefault "environment" base.environment (environment? processEnvironment)
  }

end Config

end AngularClient

namespace AngularClient.Config

inductive LoadError
  | unreadable (path : String)
  | malformed (path : String)
  | invalid
  deriving DecidableEq

def LoadError.message : LoadError → String
  | .unreadable path => s!"Failed to read {path}"
  | .malformed path => s!"Failed to parse {path}"
  | .invalid => "Invalid configuration in ."

def basePath : String := "./lbng.toml"

def overlayPath (environment : String) : String := s!"./lbng.{environment}.toml"

def readToml (store : FileStore) (path : String) : Except LoadError Toml :=
  match store.readText? path with
  | none => .error (.unreadable path)
  | some text =>
    match Toml.ofText? text with
    | none => .error (.malformed path)
    | some t => .ok t

/-- The environment whose file is looked for: the one of the process, or else of the base file. -/
def activeEnvironment (processEnvironment : Option String) (base : Toml) : String :=
  processEnvironment.getD <|
    (((base.find? "environment").bind (·.find? "active")).bind (·.str?)).getD "development"

def loadToml (processEnvironment : Option String) (store : FileStore) : Except LoadError Toml := do
  let base ← readToml store basePath
  let path := overlayPath (activeEnvironment processEnvironment base)
  if store.contains path then return base.overlay (← readToml store path) else return base

def load (processEnvironment : Option String) (store : FileStore) : Except LoadError Config := do
  let t ← loadToml processEnvironment store
  match ofDocument? processEnvironment t.toDocument with
  | some config => return config
  | none => .error .invalid

def loadOrDefault (processEnvironment : Option String) (store : FileStore) :
    Except LoadError Config :=
  if store.contains basePath then load processEnvironment store
  else .ok (default processEnvironment)

end AngularClient.Config
