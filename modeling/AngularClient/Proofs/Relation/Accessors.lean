import AngularClient.Proofs.Relation.Described

namespace AngularClient

namespace Model

theorem find?_of_mem_resolvedScopes {m : Model} (hs : m.scopes.Sorted) {relation : String}
    {s : Scope} (h : (relation, s) ∈ m.resolvedScopes) :
    m.scopes.find? relation = some (.resolved s) := by
  obtain ⟨⟨name, slot⟩, hmem, heq⟩ := List.mem_filterMap.1 h
  cases slot with
  | skipped => cases heq
  | resolved s' =>
    cases heq
    exact hs.find?_of_mem hmem

end Model

namespace ModelSet

variable {r : Registry} {o : Options} {base : ModelSet} {m : Model} {a : Attachment}

theorem mem_reversesFor (hm : m ∈ base) (ha : a ∈ m.attachments r o base m.methods.length)
    {y : Method} (hy : y ∈ a.rel.reverses m a.method) :
    y ∈ base.reversesFor r o a.target.name := by
  rw [reversesFor, List.mem_flatMap]
  refine ⟨m, hm, ?_⟩
  rw [Model.sent_eq, List.mem_flatMap]
  exact ⟨a, ha, by rwa [if_pos rfl]⟩

end ModelSet

namespace Registry

variable (r : Registry) (o : Options)

variable {r o} in
theorem exists_target_of_operation {n : Model} {relation api : String} {scope : Scope} {c : Method}
    (hn : n ∈ r.describe o) (hscope : (relation, scope) ∈ n.resolvedScopes)
    (hc : (api, c) ∈ scope.methods) :
    ∃ target ∈ r.describe o, target.name = scope.target ∧ ∃ y ∈ target.methods, c = y.exposed := by
  obtain ⟨m, hm, hbecomes⟩ := exists_unresolved_of_mem hn
  have hslot := Model.find?_of_mem_resolvedScopes hbecomes.sorted hscope
  rw [hbecomes.slot] at hslot
  obtain ⟨target, hd, hname, hops⟩ := Model.slotAt_resolved (Nat.le_refl _) hslot
  rw [hops] at hc
  rcases RelationMethod.exists_attachment_of_mem_foldl hc with hc | ⟨a, ha, y, hy, rfl⟩
  · cases hc
  · obtain ⟨ha, hrel⟩ := List.mem_filter.1 ha
    obtain ⟨k, hk, hak⟩ := Model.mem_attachments.1 ha
    have hdest := (Model.attachment?_eq_some_iff.1 hak).2.2.1
    rw [eq_of_beq hrel, hd] at hdest
    have ht : a.target ∈ r.unresolved o := by
      obtain ⟨c, -, hfind⟩ := Option.bind_eq_some_iff.1 (Option.some.inj hdest ▸ hd)
      exact List.mem_of_find?_eq_some hfind
    obtain ⟨t, htmem, htarget⟩ := exists_described_of_mem ht
    refine ⟨t, htmem, ?_, y, ?_, rfl⟩
    · rw [htarget.name, hname, Option.some.inj hdest]
    · rw [htarget.methods, List.mem_append]
      exact .inr (ModelSet.mem_reversesFor hm ha hy)

/-- No accessor dangles: what it calls is, but for the notices, a method of the model that its scope
names. -/
theorem exists_target_method_of_operation :
    ∀ m ∈ r.describe o, ∀ relation scope, (relation, scope) ∈ m.resolvedScopes →
      ∀ api c, (api, c) ∈ scope.methods →
        c.deprecated = none ∧ c.internal = none ∧
          ∃ target ∈ r.describe o, target.name = scope.target ∧
            ∃ y ∈ target.methods, y.name = c.name ∧
              { y with deprecated := none, internal := none } = c := by
  intro m hm relation scope hscope api c hc
  obtain ⟨target, htarget, hname, y, hy, rfl⟩ := exists_target_of_operation hm hscope hc
  exact ⟨rfl, rfl, target, htarget, hname, y, hy, rfl, rfl⟩

theorem exists_target_method_of_subparts :
    ∃ m ∈ parts.describe .default, ∃ scope, ("subparts", scope) ∈ m.resolvedScopes ∧
      ∃ c, ("subparts.createMany", c) ∈ scope.methods ∧
        ∃ target ∈ parts.describe .default, target.name = scope.target ∧
          ∃ y ∈ target.methods, y.name = c.name ∧
            { y with deprecated := none, internal := none } = c := by
  have hany : ((parts.describe .default).any fun m => m.resolvedScopes.any fun (relation, s) =>
      relation == "subparts" && s.methods.any fun (api, _) => api == "subparts.createMany") = true := by
    decide
  simp only [List.any_eq_true, Bool.and_eq_true, beq_iff_eq, Prod.exists] at hany
  obtain ⟨m, hm, _, scope, hscope, rfl, _, c, hc, rfl⟩ := hany
  obtain ⟨-, -, h⟩ := exists_target_method_of_operation parts .default m hm _ scope hscope _ c hc
  exact ⟨m, hm, scope, hscope, c, hc, h⟩

end Registry

end AngularClient
