import AngularClient.Text.Case

namespace AngularClient

structure Options where
  moduleName : String
  apiUrl : String
  includeCommonModules : Bool
  namespaceModels : Bool
  namespaceCommonModels : Bool
  namespaceDelimiter : String
  modelsToIgnore : List String
  comments : Bool
  includeSchema : Bool
  deriving DecidableEq

inductive OptionsError
  | dotInServiceName
  deriving DecidableEq

def OptionsError.message : OptionsError → String
  | .dotInServiceName =>
    "Namespace delimiter '.' is not supported for common models. " ++
      "Pick another namespace_delimiter or disable namespace_common_models"

namespace Options

def default : Options where
  moduleName := "lbServices"
  apiUrl := "/"
  includeCommonModules := true
  namespaceModels := false
  namespaceCommonModels := false
  namespaceDelimiter := "."
  modelsToIgnore := []
  comments := false
  includeSchema := false

def ofNameAndUrl (moduleName apiUrl : String) : Options :=
  { default with moduleName := moduleName, apiUrl := apiUrl }

def validate (o : Options) : Except OptionsError Unit :=
  if o.namespaceCommonModels && o.namespaceDelimiter == "." then .error .dotInServiceName
  else .ok ()

def urlBase (o : Options) : String :=
  String.ofList (o.apiUrl.toList.reverse.dropWhile (· == '/')).reverse

def nameSpace (o : Options) : String := o.moduleName ++ o.namespaceDelimiter

def displayName (o : Options) (declared : String) : String :=
  if o.namespaceModels then o.nameSpace ++ Text.capitalize declared else Text.capitalize declared

def serviceName (o : Options) (base : String) : String :=
  if o.namespaceCommonModels then o.nameSpace ++ base else base

def ignores (o : Options) (display : String) : Bool := o.modelsToIgnore.contains display

end Options

end AngularClient
