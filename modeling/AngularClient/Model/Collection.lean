import AngularClient.Console
import AngularClient.Model.Basic
import AngularClient.Options.Basic
import AngularClient.Text.Case
import AngularClient.Text.Quoting

namespace AngularClient

inductive Notice
  | ignored (display : String)
  | notAModel (declared : String)
  | redeclared (display : String)
  deriving DecidableEq

namespace Notice

def severity : Notice → Severity
  | .ignored _ | .redeclared _ => .warning
  | .notAModel _ => .error

def message : Notice → String
  | .ignored name => s!"Skipping {Text.quoted name} model as it is in models_to_ignore"
  | .notAModel name =>
    s!"Skipping {Text.quoted name} as it is not a model (no constructor metadata)"
  | .redeclared name =>
    s!"Model {Text.quoted name} is declared more than once, keeping the last declaration"

def remark (n : Notice) : Remark := ⟨n.severity, n.message⟩

end Notice

def ModelClass.restPath (c : ModelClass) : String :=
  c.httpPath.getD ("/" ++ Text.pluralize (Text.lower c.name))

def Model.ofClass (c : ModelClass) (name : String) : Model where
  name := name
  declaredName := c.name
  description := (c.description.map (·.normalize)).getD ""
  restPath := c.restPath
  isUser := c.isUser
  methods := c.methods.map (Method.ofRemote · name)
  scopes := []
  schema := none

structure Collection where
  models : ModelSet
  notices : List Notice

namespace Collection

def empty : Collection := ⟨[], []⟩

def note (c : Collection) (n : Notice) : Collection := { c with notices := c.notices ++ [n] }

/-- Takes in one class.  Being ignored counts before having no constructor. -/
def add (o : Options) (col : Collection) (c : ModelClass) : Collection :=
  let name := o.displayName c.name
  let model := Model.ofClass c name
  if o.ignores name then col.note (.ignored name)
  else if c.ctor.isNone then col.note (.notAModel c.name)
  else if col.models.any (·.name == name) then
    { models := col.models.map fun m => if m.name == name then model else m
      notices := col.notices ++ [.redeclared name] }
  else { col with models := col.models ++ [model] }

def ofClasses (o : Options) (classes : List ModelClass) : Collection := classes.foldl (add o) empty

end Collection

def Registry.collect (r : Registry) (o : Options) : Collection := .ofClasses o r.classes

end AngularClient
