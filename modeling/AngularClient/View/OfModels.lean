import AngularClient.Model.Basic
import AngularClient.Model.Described
import AngularClient.Options.Basic
import AngularClient.Registry.Reader
import AngularClient.Text.Quoting
import AngularClient.View.Basic

namespace AngularClient

inductive EndpointError
  | noEndpoints (method : String)
  | unknownProperty (property : String)
  | unsupportedProperty (property : String)
  | missing (method property : String)
  deriving DecidableEq

def EndpointError.message : EndpointError → String
  | .noEndpoints method => s!"Method '{method}' has no endpoints"
  | .unknownProperty property => s!"Unknown endpoint property: {property}"
  | .unsupportedProperty property => s!"Unsupported endpoint property: {property}"
  | .missing method property => s!"Method '{method}' has no {property}"

inductive Dialect
  | endpoints | direct
  deriving DecidableEq

namespace Dialect

def ofVersion (version : Nat) : Dialect :=
  if Registry.endpointsVersion ≤ version then .endpoints else .direct

def property (d : Dialect) (m : Method) (name : String) : Except EndpointError String :=
  match d with
  | .endpoints =>
    match m.binding.endpoints.bind (·.head?) with
    | none => .error (.noEndpoints m.name)
    | some e =>
      if name = "verb" then .ok e.verb
      else if name = "fullPath" then .ok e.fullPath
      else .error (.unknownProperty name)
  | .direct =>
    if name = "verb" then m.binding.verb.elim (.error (.missing m.name name)) .ok
    else if name = "fullPath" then m.binding.fullPath.elim (.error (.missing m.name name)) .ok
    else .error (.unsupportedProperty name)

def verb (d : Dialect) (m : Method) : Except EndpointError String := d.property m "verb"

def fullPath (d : Dialect) (m : Method) : Except EndpointError String := d.property m "fullPath"

end Dialect

def Registry.dialect (r : Registry) : Dialect := .ofVersion r.remotingVersion

def Parameter.typeName (p : Parameter) : String :=
  match p.type with
  | some (.string s) => s
  | some (.array _) => "Array"
  | _ => "*"

def Parameter.comment (p : Parameter) : String :=
  let head := "\x7b" ++ p.typeName ++ (if p.required then "" else "=") ++ "\x7d " ++ p.name
  Text.commentLine <| match p.description with
    | some d => head ++ " " ++ Text.singleLine d.normalize
    | none => head

def Parameter.binding (p : Parameter) : String :=
  Text.literal p.name ++ ": " ++ Text.literal ("@" ++ p.name)

def Parameter.bindings (params : List Parameter) : String :=
  "\x7b " ++ ", ".intercalate (params.map (·.binding)) ++ " \x7d"

def loginParams : String := "\x7b include: 'user' \x7d"

namespace Method

def isLogin (m : Method) (owner : Model) : Bool :=
  owner.isUser && m.isStatic && m.name == "login"

def isLogout (m : Method) (owner : Model) : Bool :=
  owner.isUser && m.isStatic && m.name == "logout"

def paramsLiteral (m : Method) (owner : Model) : Option String :=
  if m.isLogin owner then some loginParams
  else if m.hasResourceParams then some (Parameter.bindings m.resourceParams)
  else none

def view (d : Dialect) (owner : Model) (m : Method) : Except EndpointError ActionView := do
  let verb ← d.verb m
  let url ← d.fullPath m
  return {
    name := m.name
    verb := Text.upper verb
    url := url
    isArray := m.returnsArray
    isStatic := m.isStatic
    internal := m.internal.map Text.singleLine
    deprecated := m.deprecated.map Text.singleLine
    docLines := Text.commentLines m.description
    params := m.accepts.map (·.comment)
    paramsLiteral := m.paramsLiteral owner
    isLogin := m.isLogin owner
    isLogout := m.isLogout owner
  }

def operationView (m : Method) (apiName : String) : OperationView where
  apiName := apiName
  method := m.name
  docLines := Text.commentLines m.description
  params := m.accepts.map (·.comment)
  isArray := m.returnsArray

end Method

def Scope.view (s : Scope) (name : String) : ScopeView where
  name := name
  target := s.target
  hasDefaultAccessor := s.methods.keys.contains name
  operations := s.methods.map fun (apiName, m) => m.operationView apiName

def Model.view (d : Dialect) (m : Model) : Except EndpointError ModelView := do
  return {
    name := m.name
    docLines := Text.commentLines m.description
    url := m.restPath ++ "/:id"
    isUser := m.isUser
    actions := ← m.methods.mapM (Method.view d m)
    scopes := m.resolvedScopes.map fun (name, s) => s.view name
    schemaText := m.schema.map (·.text)
  }

def Options.services (o : Options) : ServiceNames where
  auth := o.serviceName "LoopBackAuth"
  authInterceptor := o.serviceName "LoopBackAuthRequestInterceptor"
  resource := o.serviceName "LoopBackResource"

def ModelSet.view (d : Dialect) (o : Options) (set : ModelSet) :
    Except EndpointError ModuleView := do
  return {
    moduleName := o.moduleName
    urlBase := o.urlBase
    includeCommonModules := o.includeCommonModules
    includeSchema := o.includeSchema
    comments := o.comments
    services := o.services
    models := ← set.mapM (Model.view d)
  }

end AngularClient
