import AngularClient.Proofs.Dictionary
import AngularClient.Proofs.Model.Collection
import AngularClient.Proofs.Text.Case

namespace AngularClient

def Options.namespaced (o : Options) : Options :=
  { o with
    namespaceModels := true
    modelsToIgnore := o.modelsToIgnore.map (o.nameSpace ++ ·) }

section NameSpace

variable (p : String)

def Method.inNameSpace (x : Method) : Method := { x with owner := p ++ x.owner }

def Scope.inNameSpace (s : Scope) : Scope where
  target := p ++ s.target
  methods := s.methods.mapValues (·.inNameSpace p)

def Slot.inNameSpace : Slot → Slot
  | .resolved s => .resolved (s.inNameSpace p)
  | .skipped => .skipped

def Schema.inNameSpace (s : Schema) : Schema := { s with name := p ++ s.name }

def Model.inNameSpace (m : Model) : Model :=
  { m with
    name := p ++ m.name
    methods := m.methods.map (·.inNameSpace p)
    scopes := m.scopes.mapValues (·.inNameSpace p)
    schema := m.schema.map (·.inNameSpace p) }

end NameSpace

namespace Options

variable {o : Options}

@[simp] theorem displayName_namespaced (h : o.namespaceModels = false) (declared : String) :
    o.namespaced.displayName declared = o.nameSpace ++ o.displayName declared := by
  rw [displayName, displayName, h]
  rfl

@[simp] theorem ignores_namespaced (o : Options) (display : String) :
    o.namespaced.ignores (o.nameSpace ++ display) = o.ignores display := by
  rw [Bool.eq_iff_iff, ignores, ignores, List.contains_iff_mem, List.contains_iff_mem, namespaced,
    List.mem_map]
  constructor
  · rintro ⟨name, hname, heq⟩
    rwa [← (String.append_right_inj _).1 heq]
  · intro h
    exact ⟨display, h, rfl⟩

end Options

@[simp] theorem append_beq_append (p s t : String) : (p ++ s == p ++ t) = (s == t) := by
  rw [Bool.eq_iff_iff, beq_iff_eq, beq_iff_eq, String.append_right_inj]

namespace Collection

variable {o : Options} {col col' : Collection} {c : ModelClass}

@[simp] theorem ofClass_inNameSpace (p : String) (c : ModelClass) (name : String) :
    Model.ofClass c (p ++ name) = (Model.ofClass c name).inNameSpace p := by
  simp only [Model.ofClass, Model.inNameSpace, List.map_map, Dictionary.mapValues_nil,
    Option.map_none]
  rfl

theorem models_add_namespaced (h : o.namespaceModels = false)
    (hcol : col'.models = col.models.map (·.inNameSpace o.nameSpace)) :
    (col'.add o.namespaced c).models =
      (col.add o c).models.map (·.inNameSpace o.nameSpace) := by
  have hany : (col.models.map (·.inNameSpace o.nameSpace)).any
      (·.name == o.nameSpace ++ o.displayName c.name) =
        col.models.any (·.name == o.displayName c.name) := by
    rw [List.any_map]
    congr 1
    funext m
    exact append_beq_append _ _ _
  simp only [add, Options.displayName_namespaced h, Options.ignores_namespaced, hcol, hany,
    ofClass_inNameSpace]
  split
  · exact hcol
  · split
    · exact hcol
    · split
      · rw [List.map_map, List.map_map]
        apply List.map_congr_left
        intro m _
        have hname : ((m.inNameSpace o.nameSpace).name == o.nameSpace ++ o.displayName c.name) =
            (m.name == o.displayName c.name) := append_beq_append _ _ _
        simp only [Function.comp_apply, hname]
        split <;> rfl
      · rw [List.map_append]
        rfl

theorem models_namespaced (h : o.namespaceModels = false) (classes : List ModelClass) :
    (ofClasses o.namespaced classes).models =
      (ofClasses o classes).models.map (·.inNameSpace o.nameSpace) := by
  induction classes using List.reverseRecOn with
  | nil => rfl
  | append_singleton classes c ih =>
    simp [models_add_namespaced h ih]

end Collection

namespace Method

@[simp] theorem createTwin?_inNameSpace (p : String) (methods : List Method) :
    createTwin? (methods.map (·.inNameSpace p)) = (createTwin? methods).map (·.inNameSpace p) := by
  have hfilter : (methods.map (·.inNameSpace p)).filter (·.name == "create") =
      (methods.filter (·.name == "create")).map (·.inNameSpace p) := by
    rw [List.filter_map]
    rfl
  rw [createTwin?, createTwin?, hfilter]
  cases methods.filter (·.name == "create") with
  | nil => rfl
  | cons x rest =>
    cases rest with
    | nil => rfl
    | cons y rest => rfl

@[simp] theorem augmentAll_inNameSpace (p : String) (accepts : Option (List Parameter))
    (methods : List Method) :
    augmentAll accepts (methods.map (·.inNameSpace p)) =
      (augmentAll accepts methods).map (·.inNameSpace p) := by
  have haugment : (methods.map (·.inNameSpace p)).map (augment accepts) =
      (methods.map (augment accepts)).map (·.inNameSpace p) := by
    rw [List.map_map, List.map_map]
    rfl
  rw [augmentAll, augmentAll, addCreateMany, addCreateMany, haugment, createTwin?_inNameSpace,
    List.map_append]
  cases createTwin? (methods.map (augment accepts)) <;> rfl

end Method

theorem Registry.unresolved_namespaced {o : Options} (h : o.namespaceModels = false)
    (r : Registry) :
    r.unresolved o.namespaced = (r.unresolved o).map (·.inNameSpace o.nameSpace) := by
  rw [unresolved, unresolved, collect, collect, Collection.models_namespaced h, ModelSet.augment,
    ModelSet.augment, List.map_map, List.map_map]
  apply List.map_congr_left
  intro m _
  simp only [Function.comp_apply, Model.augment]
  rw [Model.inNameSpace, Model.inNameSpace, Method.augmentAll_inNameSpace]

end AngularClient
