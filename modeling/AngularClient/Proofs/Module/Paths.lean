import AngularClient.Proofs.Module.Assignments
import AngularClient.Proofs.Text.Identifier

namespace AngularClient

namespace IdentifierChars

variable (ids : IdentifierChars) {s : String}

@[simp] theorem isPath_memberPath (object member : String) :
    ids.isPath (memberPath object member) = (ids.isPath object && ids.isPath member) := by
  rw [isPath, toList_memberPath, List.splitOn_append_cons_self, List.all_append]
  rfl

theorem isPath_of_not_mem (h : '.' ∉ s.toList) : ids.isPath s = ids.isName s.toList := by
  rw [isPath, List.splitOn_eq_singleton h, List.all_cons, List.all_nil, Bool.and_true]

theorem isPath_toCreateMany_of_not_mem (h : '.' ∉ s.toList) :
    ids.isPath (toCreateMany s) = ids.isPath s := by
  cases hm : mentionsCreate s with
  | false => rw [toCreateMany_eq_self hm]
  | true =>
    obtain ⟨before, after, hcut, hs⟩ := Text.exists_cut? (mentionsCreate_iff.1 hm)
    rw [ids.isPath_of_not_mem (not_mem_toCreateMany (by decide) h), ids.isPath_of_not_mem h,
      toList_toCreateMany, Text.replaceFirst_of_cut? hcut, hs, ids.isName_insert]

theorem isPath_toCreateMany (s : String) : ids.isPath (toCreateMany s) = ids.isPath s := by
  -- along the dots: one of the parts is made into that for many, and the others stay
  induction hlength : s.toList.length using Nat.strong_induction_on generalizing s with
  | _ k ih =>
    subst hlength
    by_cases hdot : '.' ∈ s.toList
    · obtain ⟨object, member, hs, -⟩ := List.eq_append_cons_of_mem hdot
      obtain rfl : s = memberPath (String.ofList object) (String.ofList member) := by
        rw [← String.toList_inj, toList_memberPath, hs, String.toList_ofList, String.toList_ofList]
      have hshorter : ∀ t, t = String.ofList object ∨ t = String.ofList member →
          ids.isPath (toCreateMany t) = ids.isPath t := by
        intro t ht
        refine ih _ ?_ t rfl
        rw [toList_memberPath, List.length_append, List.length_cons]
        rcases ht with rfl | rfl <;> omega
      rw [toCreateMany_memberPath]
      split <;> simp [hshorter]
    · exact ids.isPath_toCreateMany_of_not_mem hdot

end IdentifierChars

namespace RelationMethod

/-- The relation is a path of identifier names, and so is the operation, unless it is one that no
accessor names. -/
def IsPath (ids : IdentifierChars) (rel : RelationMethod) : Prop :=
  ids.isPath rel.scope = true ∧ (rel.op = "get" ∨ rel.op = "delete" ∨ ids.isPath rel.op = true)

instance (ids : IdentifierChars) (rel : RelationMethod) : Decidable (rel.IsPath ids) :=
  inferInstanceAs (Decidable (_ ∧ _))

variable {ids : IdentifierChars} {rel : RelationMethod} {declared api : String}

theorem isPath_apiName_iff : ids.isPath rel.apiName = true ↔ rel.IsPath ids := by
  have hdestroy : ids.isPath "destroyAll" = true := by
    rw [ids.isPath_of_not_mem (by decide), ids.isName_of_not_mem (by decide)]
    exact ids.spells_of_isAlpha (c := 'd') (by decide)
  rw [apiName_eq, IsPath, accessor?]
  split
  · next hget => simp [hget]
  · next hget =>
    split
    · next hdelete => simp [hdelete, hdestroy]
    · next hdelete => simp [hget, hdelete]

example : IsPath .ascii ⟨"findById", "line_items.parts"⟩ := by decide

theorem isPath_of_mem_apiNames (h : api ∈ rel.apiNames declared) :
    ids.isPath api = ids.isPath rel.apiName := by
  rcases mem_apiNames.1 h with rfl | ⟨-, rfl⟩
  · rfl
  · exact ids.isPath_toCreateMany _

end RelationMethod

theorem Scope.mem_paths_view_iff {s : Scope} {relation p : String} :
    p ∈ (s.view relation).assignments.map (·.path) ↔
      p = relation ∧ relation ∉ s.methods.keys ∨ p ∈ s.methods.keys := by
  have hkeys : (s.view relation).operations.map (·.apiName) = s.methods.keys := by
    simp [Scope.view, Dictionary.keys, Method.operationView]
  have hdefault : (s.view relation).hasDefaultAccessor = false ↔ relation ∉ s.methods.keys := by
    simp [Scope.view]
  rw [ScopeView.assignments, List.map_append, List.mem_append, ScopeView.mem_base_iff,
    ScopeView.map_path_accessor, hkeys, hdefault, and_comm]
  rfl

namespace Registry

variable {r : Registry} {o : Options} {n : Model} {d : Dialect} {m : ModelView}
  {ids : IdentifierChars} {text : String}

theorem mem_paths_iff {p : String} (hview : n.view d = .ok m) :
    p ∈ m.assignments.map (·.path) ↔ ∃ relation s, (relation, s) ∈ n.resolvedScopes ∧
      (p = relation ∧ relation ∉ s.methods.keys ∨ p ∈ s.methods.keys) := by
  obtain ⟨actions, -, rfl⟩ := Model.view_eq_ok hview
  rw [ModelView.assignments, List.flatMap_map, List.map_flatMap,
    List.mem_flatMap, Prod.exists]
  simp only [Scope.mem_paths_view_iff]

theorem paths_iff (hn : n ∈ r.describe o) (hview : n.view d = .ok m) :
    (∀ a ∈ m.assignments, ids.isPath a.path = true) ↔
      ∀ y ∈ n.methods, y.internal.isSome = true → ∀ rel, RelationMethod.parse? y.name = some rel →
        rel.IsPath ids := by
  rw [← List.forall_mem_map (f := Assignment.path) (P := fun p => ids.isPath p = true)]
  constructor
  · intro h y hy hmarked rel hrel
    obtain ⟨s, hs⟩ := exists_resolved_of_marked hn hy hrel hmarked
    have hkey : rel.apiName ∈ s.methods.keys := (mem_keys_iff hn hs).2
      ⟨y, hy, rel, hrel, hmarked, rfl, RelationMethod.apiName_mem_apiNames⟩
    exact RelationMethod.isPath_apiName_iff.1
      (h _ ((mem_paths_iff hview).2 ⟨_, s, hs, .inr hkey⟩))
  · intro h p hp
    obtain ⟨relation, s, hs, ⟨rfl, -⟩ | hkey⟩ := (mem_paths_iff hview).1 hp
    · obtain ⟨y, hy, rel, hrel, hmarked, rfl⟩ := exists_marked_of_resolved hn hs
      exact (h y hy hmarked rel hrel).1
    · obtain ⟨y, hy, rel, hrel, hmarked, -, hapi⟩ := (mem_keys_iff hn hs).1 hkey
      rw [RelationMethod.isPath_of_mem_apiNames hapi]
      exact RelationMethod.isPath_apiName_iff.2 (h y hy hmarked rel hrel)

/-- Each model assigns, in order and without quotes, at the paths of its relations and of their
accessors.  These are paths of identifier names just if its marked relation methods are. -/
theorem accessors_at_identifiers_iff (ids : IdentifierChars) (h : r.generate o = .ok text) :
    ∃ v script, r.view o = .ok v ∧ text = String.ofList (Module.downlevel script) ∧
      ∀ m ∈ v.models, ∃ n ∈ r.describe o, m.name = n.name ∧
        (∃ t accessors, Module.factory v m = .ok t ∧ t <:+: script ∧ accessors <:+: t ∧
          (Piece.each "scope" ["model", "scopes"] Module.scope).render (Module.bindings v m) =
            .ok accessors ∧
          Assignment.Sequence v.comments m.assignments accessors) ∧
        ((∀ a ∈ m.assignments, ids.isPath a.path = true) ↔
          ∀ y ∈ n.methods, y.internal.isSome = true →
            ∀ rel, RelationMethod.parse? y.name = some rel → rel.IsPath ids) := by
  obtain ⟨v, script, hv, hscript, rfl⟩ := generate_eq_ok h
  refine ⟨v, script, hv, rfl, ?_⟩
  intro m hm
  obtain ⟨n, hn, hview⟩ := exists_of_mem_of_forall₂ (ModelSet.forall₂_view hv).flip hm
  have hname : m.name = n.name := by
    obtain ⟨actions, -, rfl⟩ := Model.view_eq_ok hview
    rfl
  exact ⟨n, hn, hname, Module.exists_accessors hscript hm,
    paths_iff hn hview⟩

/-- Carts with a relation whose name is no identifier. -/
def carts : Registry where
  remotingVersion := 3
  classes := [
    { name := "cart"
      ctor := some ⟨none⟩
      description := none
      httpPath := none
      prototypeChain := []
      relations := [("line-items", ⟨some "cart", none⟩)]
      exposedMethods := none
      methods := [.served "prototype.__get__line-items" "/carts/:id/line-items"]
      properties := [] }]

theorem isPath_line_items (ids : IdentifierChars) : ids.isPath "line-items" = false := by
  have hdash : ids.continues '-' = false :=
    (ids.continues_of_ascii '-' (by decide)).trans (by decide)
  rw [ids.isPath_of_not_mem (by decide), ids.isName_of_not_mem (by decide)]
  simp [IdentifierChars.spells, hdash]

theorem accessors_at_identifiers_iff_carts :
    ∃ text, carts.generate .default = .ok text ∧ ∀ ids : IdentifierChars,
      ∃ v, carts.view .default = .ok v ∧
        ∃ m ∈ v.models, ∃ a ∈ m.assignments, ids.isPath a.path = false := by
  have hok : (carts.generate .default).isOk = true := by decide +kernel
  have hmodels : ((carts.view .default).toOption.any fun v => !v.models.isEmpty) = true := by
    decide +kernel
  have hmarked : ((carts.describe .default).all fun n => n.methods.any fun y =>
      y.internal.isSome && RelationMethod.parse? y.name == some ⟨"get", "line-items"⟩) = true := by
    decide +kernel
  cases hgenerate : carts.generate .default with
  | error e => rw [hgenerate] at hok; cases hok
  | ok text =>
    refine ⟨text, rfl, ?_⟩
    intro ids
    obtain ⟨v, script, hv, -, hall⟩ := accessors_at_identifiers_iff ids hgenerate
    rw [hv] at hmodels
    simp only [Except.toOption, Option.any_some, Bool.not_eq_true', List.isEmpty_eq_false_iff]
      at hmodels
    obtain ⟨m, hm⟩ := List.exists_mem_of_ne_nil _ hmodels
    obtain ⟨n, hn, -, -, hiff⟩ := hall m hm
    obtain ⟨y, hy, hrel⟩ := List.any_eq_true.1 (List.all_eq_true.1 hmarked n hn)
    rw [Bool.and_eq_true, beq_iff_eq] at hrel
    refine ⟨v, hv, m, hm, ?_⟩
    by_contra hpaths
    have hpath := (hiff.1 (by simpa using hpaths) y hy hrel.1 _ hrel.2).1
    rw [isPath_line_items] at hpath
    cases hpath

end Registry

end AngularClient
