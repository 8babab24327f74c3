import AngularClient.Module.Generation
import AngularClient.Proofs.Except
import AngularClient.Proofs.Lists

namespace AngularClient

variable {d : Dialect} {o : Options} {set : ModelSet} {v : ModuleView} {m : ModelView} {n : Model}
  {x : Method} {a : ActionView}

theorem Method.view_eq_ok (h : x.view d n = .ok a) :
    ∃ verb url, d.verb x = .ok verb ∧ d.fullPath x = .ok url ∧
      a = {
        name := x.name
        verb := Text.upper verb
        url := url
        isArray := x.returnsArray
        isStatic := x.isStatic
        internal := x.internal.map Text.singleLine
        deprecated := x.deprecated.map Text.singleLine
        docLines := Text.commentLines x.description
        params := x.accepts.map (·.comment)
        paramsLiteral := x.paramsLiteral n
        isLogin := x.isLogin n
        isLogout := x.isLogout n } := by
  obtain ⟨verb, hverb, h₁⟩ := Except.bind_eq_ok_iff.1 h
  obtain ⟨url, hurl, h₂⟩ := Except.bind_eq_ok_iff.1 h₁
  exact ⟨verb, url, hverb, hurl, (Except.ok.inj h₂).symm⟩

theorem Model.view_eq_ok (h : n.view d = .ok m) :
    ∃ actions, List.Forall₂ (fun x a => x.view d n = .ok a) n.methods actions ∧
      m = {
        name := n.name
        docLines := Text.commentLines n.description
        url := n.restPath ++ "/:id"
        isUser := n.isUser
        actions := actions
        scopes := n.resolvedScopes.map fun (name, s) => s.view name
        schemaText := n.schema.map (·.text) } := by
  obtain ⟨actions, hactions, h₁⟩ := Except.bind_eq_ok_iff.1 h
  exact ⟨actions, Except.mapM_eq_ok_iff.1 hactions, (Except.ok.inj h₁).symm⟩

theorem ModelSet.view_eq_ok (h : set.view d o = .ok v) :
    ∃ models, List.Forall₂ (fun n m => n.view d = .ok m) set models ∧
      v = ⟨o.moduleName, o.urlBase, o.includeCommonModules, o.includeSchema, o.comments, o.services,
        models⟩ := by
  obtain ⟨models, hmodels, h₁⟩ := Except.bind_eq_ok_iff.1 h
  exact ⟨models, Except.mapM_eq_ok_iff.1 hmodels, (Except.ok.inj h₁).symm⟩

theorem ModelSet.forall₂_view (h : set.view d o = .ok v) :
    List.Forall₂ (fun n m => n.view d = .ok m) set v.models := by
  obtain ⟨models, hmodels, rfl⟩ := view_eq_ok h
  exact hmodels

theorem ModelSet.names_view (h : set.view d o = .ok v) :
    v.models.map (·.name) = set.map (·.name) := by
  have hviews := forall₂_view h
  generalize v.models = views at hviews ⊢
  clear h
  induction hviews with
  | nil => rfl
  | cons hview _ ih =>
    obtain ⟨actions, -, rfl⟩ := Model.view_eq_ok hview
    rw [List.map_cons, List.map_cons, ih]

end AngularClient
