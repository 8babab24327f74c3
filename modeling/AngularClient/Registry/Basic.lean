import AngularClient.Json.Basic

namespace AngularClient

inductive Description
  | text (s : String)
  | lines (ls : List String)
  deriving DecidableEq

def Description.normalize : Description → String
  | .text s => s
  | .lines ls => "\n".intercalate ls

inductive ParameterSource
  | path | query | body | header | form | req | res | context
  deriving DecidableEq

structure ParameterHttp where
  source : Option ParameterSource
  deriving DecidableEq

structure Parameter where
  name : String
  type : Option Json
  required : Bool
  description : Option Description
  http : Option ParameterHttp

def Parameter.source (p : Parameter) : Option ParameterSource := p.http.bind (·.source)

structure ReturnValue where
  arg : Option String
  type : Option Json
  root : Bool

structure Endpoint where
  verb : String
  fullPath : String
  deriving DecidableEq

structure HttpBinding where
  endpoints : Option (List Endpoint)
  verb : Option String
  fullPath : Option String
  deriving DecidableEq

structure RemoteMethod where
  name : String
  isStatic : Bool
  accepts : List Parameter
  returns : List ReturnValue
  description : Option Description
  deprecated : Option String
  binding : HttpBinding

def Json.isArrayType : Json → Bool
  | .array _ => true
  | .string s => s == "array"
  | _ => false

def RemoteMethod.returnsArray (m : RemoteMethod) : Bool :=
  m.returns.any fun r => r.root && r.type.any (·.isArrayType)

structure ClassRef where
  modelName : Option String
  name : String
  deriving DecidableEq

inductive PropertyType
  | name (s : String)
  | composite (items : List Json)
  | classRef (c : ClassRef)
  | other (j : Json)

structure PropertyDefinition where
  type : Option PropertyType
  extra : Dictionary Json

structure RelationProperty where
  targetClass : Option String
  type : Option String
  deriving DecidableEq

structure Constructor where
  accepts : Option (List Parameter)

structure ModelClass where
  name : String
  ctor : Option Constructor
  description : Option Description
  httpPath : Option String
  prototypeChain : List String
  relations : Dictionary RelationProperty
  exposedMethods : Option (List String)
  methods : List RemoteMethod
  properties : Dictionary PropertyDefinition

structure Registry where
  remotingVersion : Nat
  classes : List ModelClass

namespace ModelClass

def relationTarget (c : ModelClass) (relation : String) : Option String :=
  (c.relations.find? relation).bind (·.targetClass)

def exposes (c : ModelClass) (bareName : String) : Bool :=
  match c.exposedMethods with
  | some allowed => allowed.contains bareName
  | none => true

def isUser (c : ModelClass) : Bool := c.name == "User" || c.prototypeChain.contains "User"

end ModelClass

namespace Registry

def class? (r : Registry) (name : String) : Option ModelClass := r.classes.find? (·.name == name)

def definition? (r : Registry) (name : String) : Option (Dictionary PropertyDefinition) :=
  (r.class? name).map (·.properties)

end Registry

end AngularClient
