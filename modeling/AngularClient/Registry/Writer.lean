import AngularClient.Registry.Basic

namespace AngularClient

def Json.memberIfSome (key : String) (value : Option Json) : List (String × Json) :=
  value.toList.map (key, ·)

def Description.toJson : Description → Json
  | .text s => .string s
  | .lines ls => .strings ls

def ParameterSource.name : ParameterSource → String
  | .path => "path"
  | .query => "query"
  | .body => "body"
  | .header => "header"
  | .form => "form"
  | .req => "req"
  | .res => "res"
  | .context => "context"

def ParameterHttp.toJson (h : ParameterHttp) : Json :=
  .ofMembers [("source", .optional (h.source.map (·.name)))]

def Parameter.toJson (p : Parameter) : Json :=
  .ofMembers <|
    [("arg", .string p.name), ("type", p.type.getD .null), ("required", .bool p.required)]
    ++ Json.memberIfSome "description" (p.description.map (·.toJson))
    ++ Json.memberIfSome "http" (p.http.map (·.toJson))

def Endpoint.toJson (e : Endpoint) : Json :=
  .ofMembers [("verb", .string e.verb), ("fullPath", .string e.fullPath)]

def HttpBinding.toJson (b : HttpBinding) : Json :=
  .ofMembers <| Json.memberIfSome "endpoints" (b.endpoints.map fun es => .array (es.map (·.toJson)))
    ++ Json.memberIfSome "verb" (b.verb.map .string)
    ++ Json.memberIfSome "fullPath" (b.fullPath.map .string)

def ClassRef.toJson (c : ClassRef) : Json :=
  .ofMembers [("modelName", .optional c.modelName), ("name", .string c.name)]

def PropertyType.toJson : PropertyType → Json
  | .name s => .string s
  | .composite items => .array items
  | .classRef c => .ofMembers [("$class", c.toJson)]
  | .other j => j

def PropertyDefinition.toJson (p : PropertyDefinition) : Json :=
  .ofMembers <| Json.memberIfSome "type" (p.type.map (·.toJson)) ++ p.extra

end AngularClient
