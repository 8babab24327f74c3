import AngularClient.Options.Basic

/-! Reading command lines.  A word or a value is taken in only when the next argument comes, so a
fault in it is reported unless that argument is at fault itself. -/

namespace AngularClient

inductive UsageError
  | unknownArgument
  | missingArgument
  | missingCommand
  | unknownCommand
  | invalidValue
  | repeatedArgument
  | surplusValue
  | help
  | version
  deriving DecidableEq

inductive Switch
  | noCommonModules | namespaceModels | namespaceCommonModels | comments | includeSchema | check
  deriving DecidableEq

inductive Setting
  | moduleName | apiUrl | namespaceDelimiter | ignore
  deriving DecidableEq

structure GenerateCommand where
  input : String
  output : Option String
  switches : List Switch
  settings : List (Setting × String)
  deriving DecidableEq

namespace GenerateCommand

def has (c : GenerateCommand) (s : Switch) : Bool := c.switches.contains s

def setting? (c : GenerateCommand) (s : Setting) : Option String := c.settings.lookup s

def ignored (c : GenerateCommand) : List String :=
  c.settings.filterMap fun (s, value) => if s = .ignore then some value else none

def apply (c : GenerateCommand) (o : Options) : Options where
  moduleName := (c.setting? .moduleName).getD o.moduleName
  apiUrl := (c.setting? .apiUrl).getD o.apiUrl
  includeCommonModules := o.includeCommonModules && !c.has .noCommonModules
  namespaceModels := o.namespaceModels || c.has .namespaceModels
  namespaceCommonModels := o.namespaceCommonModels || c.has .namespaceCommonModels
  namespaceDelimiter := (c.setting? .namespaceDelimiter).getD o.namespaceDelimiter
  modelsToIgnore := o.modelsToIgnore ++ c.ignored
  comments := o.comments || c.has .comments
  includeSchema := o.includeSchema || c.has .includeSchema

end GenerateCommand

inductive Command
  | generate (c : GenerateCommand)
  | describe (input : String)
  | completions (shell : String)
  deriving DecidableEq

inductive Flag
  | switch (s : Switch)
  | setting (s : Setting)
  | help
  | version
  deriving DecidableEq

structure Grammar where
  long : List (String × Flag)
  short : List (Char × Flag)
  /-- How many words it takes; the first is required. -/
  words : Nat
  accepts : String → Bool

namespace Grammar

def isPath (s : String) : Bool := s ≠ ""

def generate : Grammar where
  long := [("module-name", .setting .moduleName), ("url", .setting .apiUrl),
    ("no-common-modules", .switch .noCommonModules), ("namespace-models", .switch .namespaceModels),
    ("namespace-common-models", .switch .namespaceCommonModels),
    ("namespace-delimiter", .setting .namespaceDelimiter), ("ignore", .setting .ignore),
    ("comments", .switch .comments), ("include-schema", .switch .includeSchema),
    ("check", .switch .check), ("help", .help)]
  short := [('m', .setting .moduleName), ('u', .setting .apiUrl), ('h', .help)]
  words := 2
  accepts := isPath

def describe : Grammar where
  long := [("help", .help)]
  short := [('h', .help)]
  words := 1
  accepts := isPath

def shells : List String := ["bash", "elvish", "fish", "powershell", "zsh"]

def completions : Grammar := { describe with accepts := shells.contains }

def global : Grammar where
  long := [("help", .help), ("version", .version)]
  short := [('h', .help), ('V', .version)]
  words := 0
  accepts := fun _ => false

end Grammar

inductive Pending
  | word (s : String)
  | setting (s : Setting) (value : Option String)
  deriving DecidableEq

structure Arguments where
  words : List String
  switches : List Switch
  settings : List (Setting × String)
  pending : Option Pending
  deriving DecidableEq

namespace Arguments

variable (g : Grammar) (a : Arguments)

def empty : Arguments := ⟨[], [], [], none⟩

def addSetting (s : Setting) (value : String) : Except UsageError Arguments :=
  if s ≠ .ignore && (a.settings.lookup s).isSome then .error .repeatedArgument
  else .ok { a with settings := a.settings ++ [(s, value)] }

def settle : Except UsageError Arguments :=
  let rest := { a with pending := none }
  match a.pending with
  | none => .ok rest
  | some (.word w) =>
    if g.accepts w then .ok { rest with words := a.words ++ [w] } else .error .invalidValue
  | some (.setting _ none) => .error .invalidValue
  | some (.setting s (some value)) => rest.addSetting s value

def flag (f : Flag) (value : Option String) : Except UsageError Arguments :=
  match f, value with
  | .setting s, some value => do (← a.settle g).addSetting s value
  | .setting s, none => do return { ← a.settle g with pending := some (.setting s none) }
  | _, some _ => .error .surplusValue
  | .switch s, none => do
    let a ← a.settle g
    if a.switches.contains s then .error .repeatedArgument
    else return { a with switches := a.switches ++ [s] }
  | .help, none => do let _ ← a.settle g; .error .help
  | .version, none => do let _ ← a.settle g; .error .version

def longFlag (s : List Char) : Except UsageError Arguments :=
  let name := s.takeWhile (· != '=')
  let value :=
    if name.length < s.length then some (String.ofList (s.drop (name.length + 1))) else none
  match g.long.lookup (String.ofList name) with
  | some f => a.flag g f value
  | none => .error .unknownArgument

def shortFlag (c : Char) (s : List Char) : Except UsageError Arguments :=
  match g.short.lookup c with
  | some (.setting setting) =>
    a.flag g (.setting setting) (match s with
      | [] => none
      | '=' :: value => some (String.ofList value)
      | value => some (String.ofList value))
  | some f => a.flag g f none
  | none => .error .unknownArgument

def word (w : String) : Except UsageError Arguments :=
  let pending := match a.pending with
    | some (.word _) => 1
    | _ => 0
  if a.words.length + pending < g.words then do
    return { ← a.settle g with pending := some (.word w) }
  else .error .unknownArgument

def wordOrValue (w : String) : Except UsageError Arguments :=
  match a.pending with
  | some (.setting s none) => .ok { a with pending := some (.setting s (some w)) }
  | _ => a.word g w

def argument (arg : String) : Except UsageError Arguments :=
  match arg.toList with
  | '-' :: '-' :: s => a.longFlag g s
  | '-' :: c :: s => a.shortFlag g c s
  | _ => a.wordOrValue g arg

def read (a : Arguments) : List String → Except UsageError Arguments
  | [] => a.settle g
  | "--" :: rest => do (← rest.foldlM (fun a w => a.word g w) a).settle g
  | arg :: rest => do (← a.argument g arg).read rest

end Arguments

namespace Command

def ofGenerate (a : Arguments) : Except UsageError Command :=
  match a.words with
  | input :: rest => .ok (.generate ⟨input, rest.head?, a.switches, a.settings⟩)
  | [] => .error .missingArgument

def ofWord (make : String → Command) (a : Arguments) : Except UsageError Command :=
  match a.words with
  | w :: _ => .ok (make w)
  | [] => .error .missingArgument

def names : List String := ["generate", "describe", "completions", "help"]

def helpOn : List String → UsageError
  | [] => .help
  | [name] => if names.contains name then .help else .unknownCommand
  | _ => .unknownCommand

def ofName (name : String) (args : List String) : Except UsageError Command :=
  if name = "generate" then do ofGenerate (← Arguments.empty.read .generate args)
  else if name = "describe" then do ofWord .describe (← Arguments.empty.read .describe args)
  else if name = "completions" then do
    ofWord .completions (← Arguments.empty.read .completions args)
  else if name = "help" then .error (helpOn args)
  else .error .unknownCommand

def ofArgs : List String → Except UsageError Command
  | [] | ["--"] => .error .missingCommand
  | "--" :: name :: _ => .error (if names.contains name then .unknownArgument else .unknownCommand)
  | arg :: rest =>
    match arg.toList with
    | '-' :: _ :: _ =>
      match Arguments.empty.argument .global arg with
      | .error e => .error e
      | .ok _ => .error .unknownArgument
    | _ => ofName arg rest

end Command

end AngularClient
