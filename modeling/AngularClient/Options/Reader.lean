import AngularClient.Json.Record
import AngularClient.Options.Basic

namespace AngularClient.Options

open Document (string? bool? list?)

def fieldNames : List Document.FieldNames :=
  [["module_name", "moduleName", "ngModuleName"], ["api_url", "apiUrl"],
    ["include_common_modules", "includeCommonModules"], ["namespace_models", "namespaceModels"],
    ["namespace_common_models", "namespaceCommonModels"],
    ["namespace_delimiter", "namespaceDelimiter"], ["models_to_ignore", "modelsToIgnore"],
    ["comments"], ["include_schema", "includeSchema"]]

def ofDocument? (d : Document) : Option Options := do
  let fields ← d.record? fieldNames
  return {
    moduleName := ← fields.withDefault "module_name" default.moduleName string?
    apiUrl := ← fields.withDefault "api_url" default.apiUrl string?
    includeCommonModules :=
      ← fields.withDefault "include_common_modules" default.includeCommonModules bool?
    namespaceModels := ← fields.withDefault "namespace_models" default.namespaceModels bool?
    namespaceCommonModels :=
      ← fields.withDefault "namespace_common_models" default.namespaceCommonModels bool?
    namespaceDelimiter :=
      ← fields.withDefault "namespace_delimiter" default.namespaceDelimiter string?
    modelsToIgnore :=
      ← fields.withDefault "models_to_ignore" default.modelsToIgnore (list? string?)
    comments := ← fields.withDefault "comments" default.comments bool?
    includeSchema := ← fields.withDefault "include_schema" default.includeSchema bool?
  }

def ofText (text : String) : Except Document.ReadError Options := Document.readText ofDocument? text

end AngularClient.Options
