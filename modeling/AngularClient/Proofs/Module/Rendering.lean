import AngularClient.Module.Services
import AngularClient.Proofs.Template.Shape
import AngularClient.View.Basic

namespace AngularClient

namespace Shape

def action : Shape := .object [("name", .string), ("verb", .string), ("url", .string),
  ("internal", .any), ("deprecated", .any), ("doc_lines", .array .any), ("params", .array .any),
  ("params_literal", .any)]

def operation : Shape := .object [("api_name", .any), ("method", .string),
  ("doc_lines", .array .any), ("params", .array .any)]

def scope : Shape := .object [("name", .any), ("target", .string),
  ("operations", .array operation)]

def model : Shape := .object [("name", .string), ("doc_lines", .array .any), ("url", .string),
  ("actions", .array action), ("scopes", .array scope), ("schema_json", .any)]

def serviceNames : Shape := .object [("auth", .string), ("auth_interceptor", .string),
  ("resource", .string)]

@[simp] theorem fits_any (j : Json) : any.Fits j := by
  rw [Fits]
  trivial

@[simp] theorem fits_string (s : String) : string.Fits (.string s) := by
  rw [Fits]
  exact ⟨s, rfl⟩

theorem fits_array_map {α : Type} {item : Shape} {f : α → Json} (h : ∀ a, item.Fits (f a))
    (l : List α) : (array item).Fits (.array (l.map f)) := by
  rw [Fits]
  refine ⟨_, rfl, fun x hx => ?_⟩
  obtain ⟨a, -, rfl⟩ := List.mem_map.1 hx
  exact h a

@[simp] theorem fits_strings (l : List String) : (array any).Fits (.strings l) :=
  fits_array_map (fun s => fits_any (.string s)) l

@[simp] theorem fits_object {members : List (String × Shape)} {j : Json} :
    (object members).Fits j ↔ ∀ e ∈ members, ∃ v, j.member? e.1 = some v ∧ e.2.Fits v := by
  rw [Fits]
  induction members with
  | nil => simp [FitMembers]
  | cons e rest ih =>
    obtain ⟨key, shape⟩ := e
    rw [FitMembers, ih, List.forall_mem_cons]

end Shape

@[simp] theorem Json.member?_ofMembers (members : List (String × Json)) (key : String) :
    (Json.ofMembers members).member? key = (Dictionary.ofList members).find? key := rfl

theorem ActionView.fits (v : ActionView) : Shape.action.Fits v.toJson := by
  simp [Shape.action, ActionView.toJson]

theorem OperationView.fits (v : OperationView) : Shape.operation.Fits v.toJson := by
  simp [Shape.operation, OperationView.toJson]

theorem ScopeView.fits (v : ScopeView) : Shape.scope.Fits v.toJson := by
  simp [Shape.scope, ScopeView.toJson, Shape.fits_array_map OperationView.fits]

theorem ModelView.fits (v : ModelView) : Shape.model.Fits v.toJson := by
  simp [Shape.model, ModelView.toJson, Shape.fits_array_map ActionView.fits,
    Shape.fits_array_map ScopeView.fits]

theorem ServiceNames.fits (v : ServiceNames) : Shape.serviceNames.Fits v.toJson := by
  simp [Shape.serviceNames, ServiceNames.toJson]

def Signature.module : Signature := [("comments", .any), ("include_common_modules", .any),
  ("include_schema", .any), ("models", .array .model), ("module_name", .string),
  ("services", .serviceNames), ("url_base", .string)]

theorem ModuleView.fits (v : ModuleView) : Signature.module.Fits v.context := by
  have hcontext : v.context = [("comments", .bool v.comments),
      ("include_common_modules", .bool v.includeCommonModules),
      ("include_schema", .bool v.includeSchema), ("models", .array (v.models.map (·.toJson))),
      ("module_name", .string v.moduleName), ("services", v.services.toJson),
      ("url_base", .string v.urlBase)] := rfl
  rw [hcontext]
  simp [Signature.module, Signature.Fits, Shape.fits_array_map ModelView.fits, v.services.fits]

namespace Module

@[simp] theorem fits_services : Template.fits Signature.module services = true := by decide

@[simp] theorem fits_resource :
    Template.fits (("model", .model) :: Signature.module) resource = true := by decide

@[simp] theorem fits_auth : Template.fits Signature.module auth = true := by decide

@[simp] theorem fits_provider : Template.fits Signature.module provider = true := by decide

theorem exists_renderNamed {name : String} {t : Template} {signature : Signature}
    {context : Dictionary Json} (hname : templates.lookup name = some t)
    (hfits : Template.fits signature t = true) (hcontext : signature.Fits context) :
    ∃ text, Template.renderNamed name context = .ok text := by
  obtain ⟨text, htext⟩ := Template.exists_render hcontext t hfits
  refine ⟨text, ?_⟩
  simp only [Template.renderNamed, hname, htext]
  rfl

theorem exists_renderNamed_context (v : ModuleView) {name : String}
    (h : name ∈ [servicesName, "common/auth.js.tera", "common/resource_provider.js.tera"]) :
    ∃ text, Template.renderNamed name v.context = .ok text := by
  simp only [List.mem_cons, List.not_mem_nil, or_false] at h
  rcases h with rfl | rfl | rfl
  · exact exists_renderNamed rfl fits_services v.fits
  · exact exists_renderNamed rfl fits_auth v.fits
  · exact exists_renderNamed rfl fits_provider v.fits

theorem exists_renderNamed_resource (v : ModuleView) (m : ModelView) :
    ∃ text, Template.renderNamed "model/resource.js.tera"
      (("model", m.toJson) :: v.context) = .ok text :=
  exists_renderNamed rfl fits_resource (.cons ⟨rfl, m.fits⟩ v.fits)

end Module

end AngularClient
