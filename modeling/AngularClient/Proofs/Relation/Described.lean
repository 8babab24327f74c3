import AngularClient.Proofs.Relation.Attachment

namespace AngularClient

namespace Model

variable {r : Registry} {o : Options} {m : Model}

def key (m : Model) : String × String := (m.name, m.declaredName)

/-- What a registry describes in place of a model that it has before relations are resolved: the
schema apart, the model resolved to its last method and with the reverse methods of all. -/
def Becomes (r : Registry) (o : Options) (m n : Model) : Prop :=
  m.Resolved r o (r.unresolved o) m.methods.length ((r.unresolved o).reversesFor r o m.name)
    { n with schema := m.schema }

namespace Becomes

variable {n : Model} (h : m.Becomes r o n)
include h

theorem resolved : m.Resolved r o (r.unresolved o) m.methods.length
    ((r.unresolved o).reversesFor r o m.name) { n with schema := m.schema } := h

theorem name : n.name = m.name := by
  have hn := name_eq h.resolved.frame
  exact hn

theorem declaredName : n.declaredName = m.declaredName := by
  have hn := declaredName_eq h.resolved.frame
  exact hn

theorem methods : n.methods = m.ownMethods r o (r.unresolved o) m.methods.length ++
    (r.unresolved o).reversesFor r o m.name := h.resolved.methods

theorem slot (relation : String) : n.scopes.find? relation =
    m.slotAt r o (r.unresolved o) m.methods.length relation := h.resolved.slots relation

theorem sorted : n.scopes.Sorted := h.resolved.sorted

end Becomes

end Model

namespace Registry

variable {r : Registry} {o : Options} {i : Nat} {m n : Model}

theorem exists_schema (r : Registry) (o : Options) :
    ∃ schema : Model → Option Schema,
      r.describe o = (r.resolved o).map fun m => { m with schema := schema m } := by
  cases hs : o.includeSchema with
  | true => exact ⟨fun m => (m.withSchema r).schema, by rw [describe, hs]; rfl⟩
  | false => exact ⟨fun m => m.schema, by simp [describe, hs]⟩

theorem exists_described (hm : (r.unresolved o)[i]? = some m) :
    ∃ n, (r.describe o)[i]? = some n ∧ m.Becomes r o n := by
  obtain ⟨schema, hschema⟩ := exists_schema r o
  obtain ⟨n, hn, hr⟩ := ModelSet.exists_resolved (o := o) (fresh_unresolved r o) hm
  have hs : n.schema = m.schema := Model.schema_eq hr.frame
  refine ⟨{ n with schema := schema n }, ?_, ?_⟩
  · rw [hschema, List.getElem?_map, resolved]
    rw [← unresolved, hn]
    rfl
  · unfold Model.Becomes
    rw [← hs]
    exact hr

@[simp] theorem length_describe (r : Registry) (o : Options) :
    (r.describe o).length = (r.unresolved o).length := by
  obtain ⟨schema, hschema⟩ := exists_schema r o
  rw [hschema, List.length_map, resolved, ← unresolved]
  exact ModelSet.length_resolveScopes (fresh_unresolved r o)

theorem exists_unresolved (hn : (r.describe o)[i]? = some n) :
    ∃ m, (r.unresolved o)[i]? = some m ∧ m.Becomes r o n := by
  have hi : i < (r.unresolved o).length := by
    rw [← length_describe]
    exact (List.getElem?_eq_some_iff.1 hn).1
  obtain ⟨n', hn', h⟩ := exists_described (List.getElem?_eq_getElem hi)
  obtain rfl := Option.some.inj (hn.symm.trans hn')
  exact ⟨_, List.getElem?_eq_getElem hi, h⟩

theorem exists_unresolved_of_mem (hn : n ∈ r.describe o) :
    ∃ m ∈ r.unresolved o, m.Becomes r o n := by
  obtain ⟨i, hi⟩ := List.getElem?_of_mem hn
  obtain ⟨m, hm, h⟩ := exists_unresolved hi
  exact ⟨m, List.mem_of_getElem? hm, h⟩

theorem exists_described_of_mem (hm : m ∈ r.unresolved o) :
    ∃ n ∈ r.describe o, m.Becomes r o n := by
  obtain ⟨i, hi⟩ := List.getElem?_of_mem hm
  obtain ⟨n, hn, h⟩ := exists_described hi
  exact ⟨n, List.mem_of_getElem? hn, h⟩

@[simp] theorem map_key_describe (r : Registry) (o : Options) :
    (r.describe o).map Model.key = (r.unresolved o).map Model.key := by
  apply List.ext_getElem?
  intro i
  rw [List.getElem?_map, List.getElem?_map]
  cases hm : (r.unresolved o)[i]? with
  | none =>
    rw [List.getElem?_eq_none_iff, ← length_describe, ← List.getElem?_eq_none_iff] at hm
    rw [hm]
  | some m =>
    obtain ⟨n, hn, h⟩ := exists_described hm
    rw [hn]
    simp only [Option.map_some, Model.key, h.name, h.declaredName]

@[simp] theorem names_describe (r : Registry) (o : Options) :
    (r.describe o).names = (r.unresolved o).names := by
  have hk := congrArg (List.map Prod.fst) (map_key_describe r o)
  rwa [List.map_map, List.map_map] at hk

theorem nodup_names_describe (r : Registry) (o : Options) : (r.describe o).names.Nodup := by
  simpa using (fresh_unresolved r o).distinct

end Registry

def RemoteMethod.served (name path : String) : RemoteMethod where
  name := name
  isStatic := false
  accepts := []
  returns := []
  description := none
  deprecated := none
  binding := ⟨some [⟨"get", path⟩], none, none⟩

/-- Parts have subparts, found under a name in another case and exposed from the second method on,
and a label, which is no model. -/
def Registry.parts : Registry where
  remotingVersion := 3
  classes := [
    { name := "shop.part"
      ctor := some ⟨none⟩
      description := none
      httpPath := none
      prototypeChain := []
      relations := [("label", ⟨some "label", none⟩), ("subparts", ⟨some "Shop.Part", none⟩)]
      exposedMethods := some ["__create__subparts"]
      methods := [
        .served "prototype.__count__subparts" "/parts/:id/subparts/count",
        .served "prototype.__create__subparts" "/parts/:id/subparts",
        .served "prototype.__get__label" "/parts/:id/label",
        .served "prototype.__get__subparts" "/parts/:id/subparts"]
      properties := [] }]

end AngularClient
