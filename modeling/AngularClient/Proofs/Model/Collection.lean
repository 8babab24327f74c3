import AngularClient.Model.Described
import Mathlib.Data.List.Induction
import Mathlib.Data.List.Nodup

namespace AngularClient

def ModelSet.names (set : ModelSet) : List String := set.map (·.name)

namespace Collection

variable {o : Options}

theorem models_add (col : Collection) (c : ModelClass) :
    let name := o.displayName c.name
    (col.add o c).models = col.models ∨
      c.ctor.isSome ∧ o.ignores name = false ∧
        ((name ∈ col.models.names ∧ (col.add o c).models =
            col.models.map fun m => if m.name == name then Model.ofClass c name else m) ∨
          (name ∉ col.models.names ∧
            (col.add o c).models = col.models ++ [Model.ofClass c name])) := by
  intro name
  simp only [add]
  split
  · exact .inl rfl
  · next hi =>
    split
    · exact .inl rfl
    · next hc =>
      refine .inr ⟨by cases h : c.ctor <;> simp_all, by simpa using hi, ?_⟩
      have hmem : (col.models.any (·.name == name)) = true ↔ name ∈ col.models.names := by
        simp [ModelSet.names]
      split
      · next h => exact .inl ⟨hmem.1 h, rfl⟩
      · next h => exact .inr ⟨fun hn => h (hmem.2 hn), rfl⟩

@[simp] theorem ofClasses_append (classes : List ModelClass) (c : ModelClass) :
    ofClasses o (classes ++ [c]) = (ofClasses o classes).add o c := by
  simp [ofClasses]

theorem names_replace (models : ModelSet) {name : String} {new : Model} (hn : new.name = name) :
    ModelSet.names (models.map fun m => if m.name == name then new else m) = models.names := by
  simp only [ModelSet.names, List.map_map]
  apply List.map_congr_left
  intro m _
  simp only [Function.comp_apply]
  split
  · next h => rw [hn, eq_of_beq h]
  · rfl

theorem nodup_names (classes : List ModelClass) : (ofClasses o classes).models.names.Nodup := by
  induction classes using List.reverseRecOn with
  | nil => simp [ofClasses, empty, ModelSet.names]
  | append_singleton classes c ih =>
    rw [ofClasses_append]
    obtain h | ⟨-, -, ⟨-, h⟩ | ⟨hnew, h⟩⟩ := models_add (o := o) (ofClasses o classes) c
    · rwa [h]
    · have hn : (Model.ofClass c (o.displayName c.name)).name = o.displayName c.name := rfl
      rw [h, names_replace _ hn]
      exact ih
    · rw [h, ModelSet.names, List.map_append, List.nodup_append]
      refine ⟨ih, by simp, ?_⟩
      intro a ha b hb hab
      rw [List.map_singleton, List.mem_singleton] at hb
      rw [hab, hb] at ha
      exact hnew ha

theorem exists_class_of_mem {classes : List ModelClass} :
    ∀ {m : Model}, m ∈ (ofClasses o classes).models →
      ∃ c ∈ classes, c.ctor.isSome ∧ o.ignores (o.displayName c.name) = false ∧
        m = Model.ofClass c (o.displayName c.name) := by
  induction classes using List.reverseRecOn with
  | nil =>
    intro m h
    simp [ofClasses, empty] at h
  | append_singleton classes c ih =>
    intro m h
    rw [ofClasses_append] at h
    have hold : ∀ {m}, m ∈ (ofClasses o classes).models → ∃ c' ∈ classes ++ [c], c'.ctor.isSome ∧
        o.ignores (o.displayName c'.name) = false ∧
          m = Model.ofClass c' (o.displayName c'.name) := by
      intro m hm
      obtain ⟨c', hc', hrest⟩ := ih hm
      exact ⟨c', by simp [hc'], hrest⟩
    obtain hm | ⟨hc, hi, ⟨-, hm⟩ | ⟨-, hm⟩⟩ := models_add (o := o) (ofClasses o classes) c
    · exact hold (hm ▸ h)
    · rw [hm, List.mem_map] at h
      obtain ⟨m', hm', rfl⟩ := h
      by_cases hn : m'.name == o.displayName c.name
      · rw [if_pos hn]
        exact ⟨c, by simp, hc, hi, rfl⟩
      · rw [if_neg hn]
        exact hold hm'
    · rw [hm, List.mem_append, List.mem_singleton] at h
      rcases h with h | rfl
      · exact hold h
      · exact ⟨c, by simp, hc, hi, rfl⟩

end Collection

namespace Method

@[simp] theorem internal_augment (accepts : Option (List Parameter)) (x : Method) :
    (x.augment accepts).internal = x.internal := rfl

theorem exists_create_of_mem_createTwin? {methods : List Method} {x : Method}
    (h : x ∈ createTwin? methods) :
    ∃ create ∈ methods, create.name = "create" ∧ x = create.returningArray "createMany" := by
  unfold createTwin? at h
  split at h
  · next create hfilter =>
    cases h
    have hcreate : create ∈ methods.filter (·.name == "create") := by
      rw [hfilter]
      exact List.mem_singleton_self create
    obtain ⟨hmem, hname⟩ := List.mem_filter.1 hcreate
    exact ⟨create, hmem, eq_of_beq hname, rfl⟩
  · cases h

theorem internal_of_mem_augmentAll {accepts : Option (List Parameter)} {methods : List Method}
    (h : ∀ x ∈ methods, x.internal = none) :
    ∀ x ∈ augmentAll accepts methods, x.internal = none := by
  have hall : ∀ x ∈ methods.map (augment accepts), x.internal = none := by
    intro x hx
    obtain ⟨y, hy, rfl⟩ := List.mem_map.1 hx
    rw [internal_augment, h y hy]
  intro x hx
  rw [augmentAll, addCreateMany, List.mem_append, Option.mem_toList] at hx
  rcases hx with hx | hx
  · exact hall x hx
  · obtain ⟨create, hcreate, -, rfl⟩ := exists_create_of_mem_createTwin? hx
    exact hall create hcreate

end Method

/-- What resolving relations may rely on: names tell the models apart, no slot is taken, no method
has a note, and every model has a class. -/
structure ModelSet.Fresh (r : Registry) (set : ModelSet) : Prop where
  distinct : set.names.Nodup
  unscoped : ∀ m ∈ set, m.scopes = []
  unmarked : ∀ m ∈ set, ∀ x ∈ m.methods, x.internal = none
  declared : ∀ m ∈ set, ∃ c, r.class? m.declaredName = some c

namespace Registry

def unresolved (r : Registry) (o : Options) : ModelSet := (r.collect o).models.augment r

theorem exists_class?_of_mem {r : Registry} {c : ModelClass} (h : c ∈ r.classes) :
    ∃ d, r.class? c.name = some d := by
  apply Option.isSome_iff_exists.1
  rw [class?, List.find?_isSome]
  exact ⟨c, h, beq_self_eq_true c.name⟩

theorem fresh_unresolved (r : Registry) (o : Options) : (r.unresolved o).Fresh r where
  distinct := by
    have hn : (r.unresolved o).names = (r.collect o).models.names := by
      simp [unresolved, ModelSet.augment, ModelSet.names, Model.augment, Function.comp_def]
    rw [hn]
    exact Collection.nodup_names r.classes
  unscoped := by
    intro m hm
    obtain ⟨m', hm', rfl⟩ := List.mem_map.1 hm
    obtain ⟨c, -, -, -, rfl⟩ := Collection.exists_class_of_mem hm'
    rfl
  unmarked := by
    intro m hm
    obtain ⟨m', hm', rfl⟩ := List.mem_map.1 hm
    obtain ⟨c, -, -, -, rfl⟩ := Collection.exists_class_of_mem hm'
    apply Method.internal_of_mem_augmentAll
    intro x hx
    obtain ⟨y, -, rfl⟩ := List.mem_map.1 hx
    rfl
  declared := by
    intro m hm
    obtain ⟨m', hm', rfl⟩ := List.mem_map.1 hm
    obtain ⟨c, hc, -, -, rfl⟩ := Collection.exists_class_of_mem hm'
    exact exists_class?_of_mem hc

end Registry

end AngularClient
