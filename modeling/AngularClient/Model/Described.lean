import AngularClient.Json.Basic
import AngularClient.Model.Basic
import AngularClient.Model.Collection
import AngularClient.Relation.Scopes

namespace AngularClient

namespace Method

def augment (ctorAccepts : Option (List Parameter)) (m : Method) : Method :=
  let bound := if m.isStatic then [] else ctorAccepts.getD []
  { m with accepts := bound ++ m.accepts }.collectResourceParams

def createTwin? (methods : List Method) : Option Method :=
  match methods.filter (·.name == "create") with
  | [create] => some (create.returningArray "createMany")
  | _ => none

def addCreateMany (methods : List Method) : List Method := methods ++ (createTwin? methods).toList

def augmentAll (ctorAccepts : Option (List Parameter)) (methods : List Method) : List Method :=
  addCreateMany (methods.map (augment ctorAccepts))

end Method

def Registry.ctorAccepts (r : Registry) (declared : String) : Option (List Parameter) := do
  let c ← r.class? declared
  let ctor ← c.ctor
  ctor.accepts

def Model.augment (r : Registry) (m : Model) : Model :=
  { m with methods := Method.augmentAll (r.ctorAccepts m.declaredName) m.methods }

/-- A class reference becomes the model it names, or else the constructor; other types stay. -/
def PropertyType.normalize : PropertyType → Json
  | .name s => .string s
  | .composite items => .array items
  | .classRef c => .string (c.modelName.getD c.name)
  | .other j => j

def PropertyDefinition.snapshot (p : PropertyDefinition) : Json :=
  match p.type with
  | some type => .object (Dictionary.insert "type" type.normalize p.extra)
  | none => .object p.extra

namespace Schema

def ofDefinitions (name : String) (definitions : Dictionary PropertyDefinition) : Schema :=
  ⟨name, definitions.map fun (property, d) => (property, d.snapshot)⟩

def text (s : Schema) : String :=
  String.ofList ("\x7b\"name\":".toList ++ Json.writeString s.name ++ ",\"properties\":".toList
    ++ (Json.object s.properties).write ++ ['\x7d'])

end Schema

def Model.withSchema (r : Registry) (m : Model) : Model :=
  { m with schema := some (.ofDefinitions m.name ((r.definition? m.declaredName).getD [])) }

inductive Pass
  | collect | augment | scopes | schemas
  deriving DecidableEq

namespace ModelSet

def augment (r : Registry) (set : ModelSet) : ModelSet := set.map (·.augment r)

def takeSchemas (r : Registry) (set : ModelSet) : ModelSet := set.map (·.withSchema r)

def run (r : Registry) (o : Options) (set : ModelSet) : Pass → ModelSet
  | .collect => (r.collect o).models
  | .augment => set.augment r
  | .scopes => set.resolveScopes r o
  | .schemas => set.takeSchemas r

end ModelSet

namespace Registry

def resolved (r : Registry) (o : Options) : ModelSet :=
  ((r.collect o).models.augment r).resolveScopes r o

def describe (r : Registry) (o : Options) : ModelSet :=
  if o.includeSchema then (r.resolved o).takeSchemas r else r.resolved o

def notices (r : Registry) (o : Options) : List Notice := (r.collect o).notices

end Registry

end AngularClient
