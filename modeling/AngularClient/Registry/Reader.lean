import AngularClient.Json.Record
import AngularClient.Registry.Basic

namespace AngularClient

open Document (string? bool? natBelow? list? dictionary? record? fieldsOf? readText)

namespace Description

def ofDocument? : Document → Option Description
  | .string s => some (.text s)
  | d => (list? string? d).map .lines

end Description

namespace ParameterSource

def ofName? : String → Option ParameterSource
  | "path" => some .path
  | "query" => some .query
  | "body" => some .body
  | "header" => some .header
  | "form" => some .form
  | "req" => some .req
  | "res" => some .res
  | "context" => some .context
  | _ => none

/-- A source is given by its name, or by an object with that name as its only key and null there. -/
def ofDocument? : Document → Option ParameterSource
  | .string s => ofName? s
  | .object [(some name, .null)] => ofName? name
  | _ => none

end ParameterSource

def ParameterHttp.ofDocument? (d : Document) : Option ParameterHttp := do
  let fields ← d.record? [["source"]]
  return { source := ← fields.optional "source" ParameterSource.ofDocument? }

def Parameter.ofDocument? (d : Document) : Option Parameter := do
  let fields ← d.record? [["arg"], ["type"], ["required"], ["description"], ["http"]]
  return {
    name := ← fields.required "arg" string?
    type := ← fields.optional "type" Document.toJson?
    required := ← fields.withDefault "required" false bool?
    description := ← fields.optional "description" Description.ofDocument?
    http := ← fields.optional "http" ParameterHttp.ofDocument?
  }

def ReturnValue.ofDocument? (d : Document) : Option ReturnValue := do
  let fields ← d.record? [["arg"], ["type"], ["root"]]
  return {
    arg := ← fields.optional "arg" string?
    type := ← fields.optional "type" Document.toJson?
    root := ← fields.withDefault "root" false bool?
  }

def Endpoint.ofDocument? (d : Document) : Option Endpoint := do
  let fields ← d.record? [["verb"], ["fullPath"]]
  return {
    verb := ← fields.required "verb" string?
    fullPath := ← fields.required "fullPath" string?
  }

namespace HttpBinding

def fieldNames : List Document.FieldNames := [["endpoints"], ["verb"], ["fullPath"]]

def ofFields? (fields : Document.Fields) : Option HttpBinding := do
  return {
    endpoints := ← fields.optional "endpoints" (list? Endpoint.ofDocument?)
    verb := ← fields.optional "verb" string?
    fullPath := ← fields.optional "fullPath" string?
  }

def ofDocument? (d : Document) : Option HttpBinding := do ofFields? (← d.record? fieldNames)

end HttpBinding

namespace RemoteMethod

def fieldNames : List Document.FieldNames :=
  [["name"], ["isStatic"], ["accepts"], ["returns"], ["description"], ["deprecated"]]

/-- A method holds its binding among its own members, so it is always an object, and even its
unknown members must have values. -/
def ofDocument? (d : Document) : Option RemoteMethod := do
  let members ← d.members?
  let fields ← fieldsOf? (fieldNames ++ HttpBinding.fieldNames) members
  let unknown := members.filter fun (k, _) => (Document.fieldOf fieldNames k).isNone
  let _ ← unknown.mapM (·.2.toJson?)
  return {
    name := ← fields.required "name" string?
    isStatic := ← fields.withDefault "isStatic" false bool?
    accepts := ← fields.withDefault "accepts" [] (list? Parameter.ofDocument?)
    returns := ← fields.withDefault "returns" [] (list? ReturnValue.ofDocument?)
    description := ← fields.optional "description" Description.ofDocument?
    deprecated := ← fields.optional "deprecated" string?
    binding := ← HttpBinding.ofFields? fields
  }

end RemoteMethod

def ClassRef.ofDocument? (d : Document) : Option ClassRef := do
  let fields ← d.record? [["modelName"], ["name"]]
  return {
    modelName := ← fields.optional "modelName" string?
    name := ← fields.required "name" string?
  }

namespace PropertyType

def classRef? (d : Document) : Option ClassRef := do
  let fields ← fieldsOf? [["$class"]] (← d.members?)
  fields.required "$class" ClassRef.ofDocument?

def ofDocument? (d : Document) : Option PropertyType := do
  match ← d.toJson? with
  | .string s => return .name s
  | .array items => return .composite items
  | j => return ((classRef? d).map .classRef).getD (.other j)

end PropertyType

namespace PropertyDefinition

def ofDocument? (d : Document) : Option PropertyDefinition := do
  let members ← d.members?
  let fields ← fieldsOf? [["type"]] members
  let rest ← (members.filter (·.1 ≠ "type")).mapM fun (k, v) => v.toJson?.map (k, ·)
  return {
    type := ← fields.optional "type" PropertyType.ofDocument?
    extra := Dictionary.ofList rest
  }

end PropertyDefinition

def RelationProperty.ofDocument? (d : Document) : Option RelationProperty := do
  let fields ← d.record? [["targetClass"], ["type"]]
  return {
    targetClass := ← fields.optional "targetClass" string?
    type := ← fields.optional "type" string?
  }

def Constructor.ofDocument? (d : Document) : Option Constructor := do
  let fields ← d.record? [["accepts"]]
  return { accepts := ← fields.optional "accepts" (list? Parameter.ofDocument?) }

namespace ModelClass

def settings? (d : Document) : Option (Option Description) := do
  (← d.record? [["description"]]).optional "description" Description.ofDocument?

def http? (d : Document) : Option (Option String) := do
  (← d.record? [["path"]]).optional "path" string?

def ofDocument? (d : Document) : Option ModelClass := do
  let fields ← d.record? [["name"], ["ctor"], ["settings"], ["http"], ["prototypeChain"],
    ["relations"], ["exposedMethods"], ["methods"], ["properties"]]
  return {
    name := ← fields.required "name" string?
    ctor := ← fields.optional "ctor" Constructor.ofDocument?
    description := ← fields.withDefault "settings" none settings?
    httpPath := ← fields.withDefault "http" none http?
    prototypeChain := ← fields.withDefault "prototypeChain" [] (list? string?)
    relations := ← fields.withDefault "relations" [] (dictionary? RelationProperty.ofDocument?)
    exposedMethods := ← fields.optional "exposedMethods" (list? string?)
    methods := ← fields.withDefault "methods" [] (list? RemoteMethod.ofDocument?)
    properties := ← fields.withDefault "properties" [] (dictionary? PropertyDefinition.ofDocument?)
  }

end ModelClass

namespace Registry

def endpointsVersion : Nat := 3

def version? : Document → Option Nat := natBelow? (Nat.pow 2 32)

def ofDocument? (d : Document) : Option Registry := do
  let fields ← d.record? [["remotingVersion"], ["models"]]
  return {
    remotingVersion := ← fields.withDefault "remotingVersion" endpointsVersion version?
    classes := ← fields.withDefault "models" [] (list? ModelClass.ofDocument?)
  }

def ofText (text : String) : Except Document.ReadError Registry := readText ofDocument? text

end Registry

end AngularClient
