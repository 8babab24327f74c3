import AngularClient.Json.Basic

namespace AngularClient

structure ActionView where
  name : String
  verb : String
  url : String
  isArray : Bool
  isStatic : Bool
  internal : Option String
  deprecated : Option String
  docLines : List String
  params : List String
  paramsLiteral : Option String
  isLogin : Bool
  isLogout : Bool

structure OperationView where
  apiName : String
  method : String
  docLines : List String
  params : List String
  isArray : Bool

structure ScopeView where
  name : String
  target : String
  hasDefaultAccessor : Bool
  operations : List OperationView

structure ModelView where
  name : String
  docLines : List String
  url : String
  isUser : Bool
  actions : List ActionView
  scopes : List ScopeView
  schemaText : Option String

structure ServiceNames where
  auth : String
  authInterceptor : String
  resource : String

structure ModuleView where
  moduleName : String
  urlBase : String
  includeCommonModules : Bool
  includeSchema : Bool
  comments : Bool
  services : ServiceNames
  models : List ModelView

def ActionView.toJson (v : ActionView) : Json :=
  .ofMembers [("name", .string v.name), ("verb", .string v.verb), ("url", .string v.url),
    ("is_array", .bool v.isArray), ("is_static", .bool v.isStatic),
    ("internal", .optional v.internal), ("deprecated", .optional v.deprecated),
    ("doc_lines", .strings v.docLines), ("params", .strings v.params),
    ("params_literal", .optional v.paramsLiteral), ("is_login", .bool v.isLogin),
    ("is_logout", .bool v.isLogout)]

def OperationView.toJson (v : OperationView) : Json :=
  .ofMembers [("api_name", .string v.apiName), ("method", .string v.method),
    ("doc_lines", .strings v.docLines), ("params", .strings v.params),
    ("is_array", .bool v.isArray)]

def ScopeView.toJson (v : ScopeView) : Json :=
  .ofMembers [("name", .string v.name), ("target", .string v.target),
    ("has_default_accessor", .bool v.hasDefaultAccessor),
    ("operations", .array (v.operations.map (·.toJson)))]

def ModelView.toJson (v : ModelView) : Json :=
  .ofMembers [("name", .string v.name), ("doc_lines", .strings v.docLines), ("url", .string v.url),
    ("is_user", .bool v.isUser), ("actions", .array (v.actions.map (·.toJson))),
    ("scopes", .array (v.scopes.map (·.toJson))), ("schema_json", .optional v.schemaText)]

def ServiceNames.toJson (v : ServiceNames) : Json :=
  .ofMembers [("auth", .string v.auth), ("auth_interceptor", .string v.authInterceptor),
    ("resource", .string v.resource)]

def ModuleView.context (v : ModuleView) : Dictionary Json :=
  .ofList [("module_name", .string v.moduleName), ("url_base", .string v.urlBase),
    ("include_common_modules", .bool v.includeCommonModules),
    ("include_schema", .bool v.includeSchema), ("comments", .bool v.comments),
    ("services", v.services.toJson), ("models", .array (v.models.map (·.toJson)))]

end AngularClient
