import AngularClient.Registry.Basic
import AngularClient.Text.Case

namespace AngularClient

structure Method where
  name : String
  isStatic : Bool
  accepts : List Parameter
  returnsArray : Bool
  description : String
  deprecated : Option String
  /-- Marks a method kept for compatibility; the note names its replacement. -/
  internal : Option String
  resourceParams : List Parameter
  hasResourceParams : Bool
  binding : HttpBinding
  /-- Display name of the model whose REST surface serves the method. -/
  owner : String

namespace Method

def ofRemote (m : RemoteMethod) (owner : String) : Method where
  name := m.name
  isStatic := m.isStatic
  accepts := m.accepts
  returnsArray := m.returnsArray
  description := (m.description.map (·.normalize)).getD ""
  deprecated := m.deprecated
  internal := none
  resourceParams := []
  hasResourceParams := false
  binding := m.binding
  owner := owner

def renamed (m : Method) (name : String) : Method := { m with name := name }

def returningArray (m : Method) (name : String) : Method :=
  { m with name := name, returnsArray := true }

def withInternal (m : Method) (note : Option String) : Method := { m with internal := note }

def exposed (m : Method) : Method := { m with deprecated := none, internal := none }

end Method

def Parameter.isResource (p : Parameter) : Bool := p.source == some .path && p.name != "id"

def Method.collectResourceParams (m : Method) : Method :=
  let found := m.accepts.filter (·.isResource)
  { m with
    resourceParams := m.resourceParams ++ found
    hasResourceParams := m.hasResourceParams || !found.isEmpty }

structure Scope where
  target : String
  methods : Dictionary Method

/-- What became of a relation: resolved to a model, or skipped as its target is not in the module.
-/
inductive Slot
  | resolved (s : Scope)
  | skipped

def Slot.scope? : Slot → Option Scope
  | .resolved s => some s
  | .skipped => none

structure Schema where
  name : String
  properties : Dictionary Json

structure Model where
  name : String
  declaredName : String
  description : String
  restPath : String
  isUser : Bool
  methods : List Method
  scopes : Dictionary Slot
  schema : Option Schema

namespace Model

def method? (m : Model) (name : String) : Option Method := m.methods.find? (·.name == name)

def resolvedScopes (m : Model) : Dictionary Scope :=
  m.scopes.filterMap fun (name, slot) => slot.scope?.map (name, ·)

def scope? (m : Model) (name : String) : Option Scope := (m.scopes.find? name).bind (·.scope?)

end Model

abbrev ModelSet := List Model

namespace ModelSet

def find (set : ModelSet) (name : String) : Option Model := set.find? (·.name == name)

def position? (set : ModelSet) (name : String) : Option Nat := set.findIdx? (·.name == name)

def positionIgnoringCase? (set : ModelSet) (name : String) : Option Nat :=
  set.findIdx? fun m => Text.lower m.name == Text.lower name

end ModelSet

end AngularClient
