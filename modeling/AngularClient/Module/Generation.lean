import AngularClient.Model.Described
import AngularClient.Module.Services
import AngularClient.Text.Basic
import AngularClient.View.Basic
import AngularClient.View.OfModels

namespace AngularClient.Module

def isIndent (c : Char) : Bool := c == ' ' || c == '\t'

def afterKeyword? (keyword s : List Char) : Option (List Char) :=
  let rest := s.drop keyword.length
  if keyword.isPrefixOf s && rest.head?.any isIndent then some (rest.dropWhile isIndent) else none

def lowerDeclaration (line : List Char) : List Char :=
  let rest := line.dropWhile isIndent
  match (afterKeyword? "const".toList rest).or (afterKeyword? "let".toList rest) with
  | some declared => line.takeWhile isIndent ++ "var ".toList ++ declared
  | none => line

/-- Writes one empty line for each run of them between other lines, and none at the end; `gap` tells
whether a run is open. -/
def squeezeAfter (gap : Bool) : List (List Char) → List (List Char)
  | [] => []
  | [] :: rest => squeezeAfter true rest
  | line :: rest => (if gap then [[], line] else [line]) ++ squeezeAfter false rest

def squeeze (ls : List (List Char)) : List (List Char) :=
  squeezeAfter false (ls.dropWhile (·.isEmpty))

/-- A script without any lines is a single empty one. -/
def downlevel (script : List Char) : List Char :=
  match squeeze ((script.splitOn '\n').map fun line => Text.trimEnd (lowerDeclaration line)) with
  | [] => ['\n']
  | ls => Text.unlines ls

end AngularClient.Module

namespace AngularClient

inductive GenerationError
  | options (e : OptionsError)
  | endpoint (e : EndpointError)
  | template (f : Template.Failure)
  deriving DecidableEq

namespace GenerationError

def cause? : GenerationError → Option String
  | .options _ => none
  | .endpoint e => some e.message
  | .template f => some f.message

def message : GenerationError → String
  | .options e => e.message
  | .endpoint e => "Code generation failed: " ++ e.message
  | .template f => "Code generation failed: " ++ f.message

end GenerationError

namespace Registry

def view (r : Registry) (o : Options) : Except EndpointError ModuleView :=
  (r.describe o).view r.dialect o

def generate (r : Registry) (o : Options) : Except GenerationError String := do
  o.validate.mapError .options
  let view ← (r.view o).mapError .endpoint
  let text ← (Template.renderNamed Module.servicesName view.context).mapError .template
  return String.ofList (Module.downlevel text)

def remarks (r : Registry) (o : Options) : List Remark :=
  match r.generate o with
  | .ok _ => (r.notices o).map (·.remark)
  | .error e =>
    match e.cause? with
    | none => []
    | some cause => (r.notices o).map (·.remark) ++ [⟨.error, cause⟩]

end Registry

end AngularClient
