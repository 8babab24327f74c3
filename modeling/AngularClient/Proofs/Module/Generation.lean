import AngularClient.Proofs.Module.Rendering
import AngularClient.Proofs.Relation.Origin
import AngularClient.Proofs.View.OfModels

namespace AngularClient

namespace Registry

def Serves (r : Registry) (b : HttpBinding) : Prop :=
  if 3 ≤ r.remotingVersion then ∃ endpoints, b.endpoints = some endpoints ∧ endpoints ≠ []
  else b.verb.isSome = true ∧ b.fullPath.isSome = true

def complaint? (r : Registry) (x : Method) : Option String :=
  if 3 ≤ r.remotingVersion then
    if (x.binding.endpoints.getD []).isEmpty then some s!"Method '{x.name}' has no endpoints"
    else none
  else if x.binding.verb.isNone then some s!"Method '{x.name}' has no verb"
  else if x.binding.fullPath.isNone then some s!"Method '{x.name}' has no fullPath"
  else none

variable {r : Registry} {o : Options} {n : Model} {x : Method} {e : OptionsError}

theorem complaint?_eq_none_iff : r.complaint? x = none ↔ r.Serves x.binding := by
  unfold complaint? Serves
  split
  · cases x.binding.endpoints with
    | none => simp
    | some endpoints => cases endpoints <;> simp
  · cases x.binding.verb <;> cases x.binding.fullPath <;> simp

theorem dialect_eq : r.dialect = if 3 ≤ r.remotingVersion then .endpoints else .direct := rfl

theorem message_missing (name property : String) :
    (EndpointError.missing name property).message =
      "Method '" ++ name ++ "' has no " ++ property := rfl

theorem error?_endpoints {property : String} (h : property = "verb" ∨ property = "fullPath") :
    (Except.error? (Dialect.endpoints.property x property)).map (·.message) =
      if (x.binding.endpoints.getD []).isEmpty then some s!"Method '{x.name}' has no endpoints"
      else none := by
  rw [Dialect.property]
  cases x.binding.endpoints with
  | none => rfl
  | some endpoints =>
    cases endpoints with
    | nil => rfl
    | cons e rest => rcases h with rfl | rfl <;> rfl

theorem error?_direct_verb : (Except.error? (Dialect.direct.verb x)).map (·.message) =
    if x.binding.verb.isNone then some s!"Method '{x.name}' has no verb" else none := by
  rw [Dialect.verb, Dialect.property, if_pos rfl]
  cases x.binding.verb with
  | none =>
    refine (congrArg some (message_missing x.name "verb")).trans ?_
    rw [String.append_assoc]
    rfl
  | some verb => rfl

theorem error?_direct_fullPath : (Except.error? (Dialect.direct.fullPath x)).map (·.message) =
    if x.binding.fullPath.isNone then some s!"Method '{x.name}' has no fullPath" else none := by
  rw [Dialect.fullPath, Dialect.property, if_neg (by decide), if_pos rfl]
  cases x.binding.fullPath with
  | none =>
    refine (congrArg some (message_missing x.name "fullPath")).trans ?_
    rw [String.append_assoc]
    rfl
  | some path => rfl

theorem error?_view : (Except.error? (x.view r.dialect n)).map (·.message) = r.complaint? x := by
  have hview : Except.error? (x.view r.dialect n) =
      (Except.error? (r.dialect.verb x)).or (Except.error? (r.dialect.fullPath x)) := by
    apply Except.error?_bind
    intro verb _
    rw [← Option.or_none (o := Except.error? (r.dialect.fullPath x))]
    apply Except.error?_bind
    intro url _
    rfl
  rw [hview, Option.map_or, dialect_eq, complaint?]
  split
  · rw [Dialect.verb, Dialect.fullPath, error?_endpoints (.inl rfl), error?_endpoints (.inr rfl)]
    split <;> rfl
  · rw [error?_direct_verb, error?_direct_fullPath]
    split <;> rfl

theorem error?_view_model :
    (Except.error? (n.view r.dialect)).map (·.message) = n.methods.findSome? r.complaint? := by
  have hview : Except.error? (n.view r.dialect) =
      (Except.error? (n.methods.mapM (Method.view r.dialect n))).or none := by
    apply Except.error?_bind
    intro actions _
    rfl
  rw [hview, Option.or_none, Except.error?_mapM, List.map_findSome?]
  congr 1
  funext x
  exact error?_view

theorem error?_view_set : (Except.error? (r.view o)).map (·.message) =
    (r.describe o).findSome? fun n => n.methods.findSome? r.complaint? := by
  have hview : Except.error? (r.view o) =
      (Except.error? ((r.describe o).mapM (Model.view r.dialect))).or none := by
    apply Except.error?_bind
    intro models _
    rfl
  rw [hview, Option.or_none, Except.error?_mapM, List.map_findSome?]
  congr 1
  funext n
  exact error?_view_model

theorem generate_of_refused (h : o.validate = .error e) : r.generate o = .error (.options e) := by
  rw [generate, h]
  rfl

theorem generate_of_view_error {c : EndpointError} (ho : o.validate = .ok ())
    (h : r.view o = .error c) : r.generate o = .error (.endpoint c) := by
  rw [generate, ho, h]
  rfl

theorem exists_generate {v : ModuleView} (ho : o.validate = .ok ()) (h : r.view o = .ok v) :
    ∃ text, r.generate o = .ok text := by
  obtain ⟨text, htext⟩ := Module.exists_renderNamed_context v (List.mem_cons_self ..)
  refine ⟨String.ofList (Module.downlevel text), ?_⟩
  rw [generate, ho, h]
  exact Except.bind_eq_ok_iff.2 ⟨(), rfl, Except.bind_eq_ok_iff.2 ⟨v, rfl,
    Except.bind_eq_ok_iff.2 ⟨text, Except.mapError_eq_ok_iff.2 htext, rfl⟩⟩⟩

theorem message_generate {g : GenerationError} (ho : o.validate = .ok ())
    (h : r.generate o = .error g) : ∃ text,
      ((r.describe o).findSome? fun n => n.methods.findSome? r.complaint?) = some text ∧
        g.message = "Code generation failed: " ++ text := by
  cases hv : r.view o with
  | ok v =>
    obtain ⟨text, htext⟩ := exists_generate ho hv
    rw [htext] at h
    cases h
  | error c =>
    rw [generate_of_view_error ho hv] at h
    obtain rfl := Except.error.inj h
    rw [← error?_view_set, hv]
    exact ⟨c.message, rfl, rfl⟩

theorem exists_view_iff : (∃ v, r.view o = .ok v) ↔
    ∀ n ∈ r.describe o, ∀ x ∈ n.methods, r.Serves x.binding := by
  rw [← Except.error?_eq_none_iff, ← Option.map_eq_none_iff (f := EndpointError.message),
    error?_view_set, List.findSome?_eq_none_iff]
  simp only [List.findSome?_eq_none_iff, complaint?_eq_none_iff]

theorem exists_generate_iff : (∃ text, r.generate o = .ok text) ↔
    o.validate = .ok () ∧ ∃ v, r.view o = .ok v := by
  constructor
  · rintro ⟨text, h⟩
    obtain ⟨⟨⟩, ho, h₁⟩ := Except.bind_eq_ok_iff.1 h
    obtain ⟨v, hv, -⟩ := Except.bind_eq_ok_iff.1 h₁
    exact ⟨Except.mapError_eq_ok_iff.1 ho, v, Except.mapError_eq_ok_iff.1 hv⟩
  · rintro ⟨ho, v, hv⟩
    exact exists_generate ho hv

/-- A module is generated just if the options are valid and the declared methods of all models have
endpoints: no template fails on a view, and what else is described has the endpoint of a declared
method.  Refused options are reported as such and without a remark, a missing endpoint as that of
the first action described without one. -/
theorem generate_outcome (r : Registry) (o : Options) :
    ((∃ text, r.generate o = .ok text) ↔
      o.validate = .ok () ∧ ∀ m ∈ (r.collect o).models,
        ∃ c, r.kept? o m.name = some c ∧ ∀ x ∈ c.methods, r.Serves x.binding) ∧
    (∀ v, r.view o = .ok v →
      (∀ name ∈ [Module.servicesName, "common/auth.js.tera", "common/resource_provider.js.tera"],
        ∃ text, Template.renderNamed name v.context = .ok text) ∧
      ∀ m ∈ v.models, ∃ text,
        Template.renderNamed "model/resource.js.tera" (("model", m.toJson) :: v.context) =
          .ok text) ∧
    (∀ e, o.validate = .error e →
      ∃ g, r.generate o = .error g ∧ g.message = e.message ∧ r.remarks o = []) ∧
    (o.validate = .ok () → ∀ g, r.generate o = .error g → ∃ text,
      ((r.describe o).findSome? fun n => n.methods.findSome? r.complaint?) = some text ∧
        g.message = "Code generation failed: " ++ text) := by
  refine ⟨?_, ?_, ?_, ?_⟩
  · rw [exists_generate_iff, exists_view_iff, forall_binding_describe]
  · intro v _
    constructor
    · intro name hname
      exact Module.exists_renderNamed_context v hname
    · intro m _
      exact Module.exists_renderNamed_resource v m
  · intro e he
    have hg := generate_of_refused (r := r) he
    refine ⟨.options e, hg, rfl, ?_⟩
    rw [remarks, hg]
    rfl
  · intro ho g hg
    exact message_generate ho hg

/-- Endpoints that are listed serve under the dialect of lists only; under the other one the very
first action has no verb. -/
theorem generate_outcome_parts :
    (∃ text, parts.generate .default = .ok text) ∧
      ∃ g, Registry.generate ⟨2, parts.classes⟩ .default = .error g ∧
        g.message =
          "Code generation failed: Method 'prototype.__count__subparts' has no verb" := by
  obtain ⟨hparts, -⟩ := generate_outcome parts .default
  obtain ⟨-, -, -, hmessage⟩ := generate_outcome ⟨2, parts.classes⟩ .default
  constructor
  · rw [hparts]
    refine ⟨rfl, ?_⟩
    intro m hm
    obtain ⟨c, hc, -⟩ := Collection.exists_kept_of_mem hm
    refine ⟨c, hc, ?_⟩
    have hmem : c ∈ parts.classes := List.mem_reverse.1 (List.mem_of_find?_eq_some hc)
    obtain rfl := List.mem_singleton.1 hmem
    intro x hx
    rw [Serves, if_pos (by decide)]
    have hserved : ∃ name path, x = .served name path := by
      simp only [List.mem_cons, List.not_mem_nil, or_false] at hx
      rcases hx with rfl | rfl | rfl | rfl <;> exact ⟨_, _, rfl⟩
    obtain ⟨name, path, rfl⟩ := hserved
    exact ⟨_, rfl, List.cons_ne_nil _ _⟩
  · have hfails : (Registry.generate ⟨2, parts.classes⟩ .default).isOk = false := by
      decide +kernel
    cases hg : Registry.generate ⟨2, parts.classes⟩ .default with
    | ok text => rw [hg] at hfails; cases hfails
    | error g =>
      obtain ⟨text, htext, hg'⟩ := hmessage rfl g hg
      refine ⟨g, rfl, ?_⟩
      have hfirst : some "Method 'prototype.__count__subparts' has no verb" = some text := by
        rw [← htext]
        decide
      rw [hg', ← Option.some.inj hfirst]
      decide

end Registry

end AngularClient
