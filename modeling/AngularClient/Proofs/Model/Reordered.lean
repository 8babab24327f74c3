import AngularClient.Proofs.Relation.Effect
import Mathlib.Data.List.Forall2

namespace AngularClient

def ModelClass.bare (c : ModelClass) : ModelClass := { c with methods := [] }

structure ModelClass.Reordered (c d : ModelClass) : Prop where
  bare : d.bare = c.bare
  methods : c.methods.Perm d.methods

structure Model.Reordered (m n : Model) : Prop where
  frame : n.frame = m.frame
  methods : m.methods.Perm n.methods

def Registry.Reordered (r s : Registry) : Prop :=
  List.Forall₂ ModelClass.Reordered r.classes s.classes

namespace ModelClass

variable {c d : ModelClass}

@[simp] theorem name_bare (c : ModelClass) : c.bare.name = c.name := rfl

theorem ofClass_reordered (h : c.Reordered d) (name : String) :
    (Model.ofClass c name).Reordered (Model.ofClass d name) where
  frame := by
    have hf : ∀ c : ModelClass, (Model.ofClass c name).frame = (Model.ofClass c.bare name).frame :=
      fun _ => rfl
    rw [hf, h.bare, ← hf]
  methods := h.methods.map _

theorem map_bare_of_reordered {classes classes' : List ModelClass}
    (h : List.Forall₂ Reordered classes classes') : classes'.map bare = classes.map bare := by
  induction h with
  | nil => rfl
  | cons h _ ih => rw [List.map_cons, List.map_cons, h.bare, ih]

end ModelClass

namespace ModelSet

variable {set base : ModelSet}

theorem names_of_reordered (h : List.Forall₂ Model.Reordered set base) :
    base.names = set.names := by
  induction h with
  | nil => rfl
  | cons h _ ih => simp only [names, List.map_cons, Model.name_eq h.frame] at ih ⊢; rw [ih]

end ModelSet

namespace Collection

variable {o : Options} {col col' : Collection} {c d : ModelClass}

theorem models_add_reordered (h : List.Forall₂ Model.Reordered col.models col'.models)
    (hc : c.Reordered d) :
    List.Forall₂ Model.Reordered (col.add o c).models (col'.add o d).models := by
  have hname : d.name = c.name := by rw [← d.name_bare, hc.bare, c.name_bare]
  have hctor : d.ctor = c.ctor := by
    have hb := congrArg ModelClass.ctor hc.bare
    exact hb
  have hany : col'.models.any (·.name == o.displayName c.name) =
      col.models.any (·.name == o.displayName c.name) := by
    have hn := congrArg (List.any · (· == o.displayName c.name)) (ModelSet.names_of_reordered h)
    simpa [ModelSet.names, Function.comp_def] using hn
  have hnew := ModelClass.ofClass_reordered hc (o.displayName c.name)
  simp only [add, hname, hctor, hany]
  split
  · exact h
  · split
    · exact h
    · split
      · rw [List.forall₂_map_left_iff, List.forall₂_map_right_iff]
        apply h.imp
        intro m n hm
        rw [Model.name_eq hm.frame]
        split
        · exact hnew
        · exact hm
      · exact List.rel_append h (.cons hnew .nil)

theorem models_foldl_reordered {classes classes' : List ModelClass}
    (hc : List.Forall₂ ModelClass.Reordered classes classes')
    (h : List.Forall₂ Model.Reordered col.models col'.models) :
    List.Forall₂ Model.Reordered (classes.foldl (add o) col).models
      (classes'.foldl (add o) col').models := by
  induction hc generalizing col col' with
  | nil => exact h
  | cons hc _ ih => exact ih (models_add_reordered h hc)

end Collection

namespace Method

theorem createTwin?_perm {methods more : List Method} (h : methods.Perm more) :
    createTwin? more = createTwin? methods := by
  have hf := h.filter (·.name == "create")
  -- only a single `create` has a twin, and permuting one element changes nothing
  unfold createTwin?
  generalize methods.filter (·.name == "create") = l at hf ⊢
  generalize more.filter (·.name == "create") = l' at hf ⊢
  match l, l', hf with
  | [], l', hf => rw [hf.nil_eq]
  | [x], l', hf => rw [List.singleton_perm.1 hf]
  | x :: y :: l, [], hf => exact absurd hf.length_eq (by simp)
  | x :: y :: l, [z], hf => exact absurd hf.length_eq (by simp)
  | x :: y :: l, z :: w :: l', _ => rfl

theorem augmentAll_perm {methods more : List Method} (accepts : Option (List Parameter))
    (h : methods.Perm more) : (augmentAll accepts methods).Perm (augmentAll accepts more) := by
  have hm := h.map (augment accepts)
  rw [augmentAll, augmentAll, addCreateMany, addCreateMany, createTwin?_perm hm]
  exact hm.append_right _

end Method

namespace Registry.Reordered

variable {r s : Registry} (h : r.Reordered s)
include h

theorem class?_bare (name : String) :
    (s.class? name).map ModelClass.bare = (r.class? name).map ModelClass.bare := by
  have hb := ModelClass.map_bare_of_reordered h
  have hf : ∀ r : Registry, (r.class? name).map ModelClass.bare =
      (r.classes.map ModelClass.bare).find? (·.name == name) := by
    intro r
    rw [class?, List.find?_map]
    rfl
  rw [hf, hf, hb]

theorem ctorAccepts (name : String) : s.ctorAccepts name = r.ctorAccepts name := by
  have hc : ∀ r : Registry, r.ctorAccepts name =
      ((r.class? name).map ModelClass.bare).bind fun c => c.ctor.bind (·.accepts) := by
    intro r
    rw [Option.bind_map]
    rfl
  rw [hc, hc, h.class?_bare]

theorem targetClass? (m : Model) (relation : String) :
    m.targetClass? s relation = m.targetClass? r relation := by
  have hc : ∀ r : Registry, m.targetClass? r relation =
      ((r.class? m.declaredName).map ModelClass.bare).bind (·.relationTarget relation) := by
    intro r
    rw [Option.bind_map]
    rfl
  rw [hc, hc, h.class?_bare]

theorem exposes (m : Model) (x : Method) : m.exposes s x = m.exposes r x := by
  have hc : ∀ r : Registry, m.exposes r x =
      ((r.class? m.declaredName).map ModelClass.bare).all
        (·.exposes (bareMethodName x.name)) := by
    intro r
    rw [Option.all_map]
    rfl
  rw [hc, hc, h.class?_bare]

theorem unresolved (o : Options) :
    List.Forall₂ Model.Reordered (r.unresolved o) (s.unresolved o) := by
  have hcol : List.Forall₂ Model.Reordered (r.collect o).models (s.collect o).models :=
    Collection.models_foldl_reordered h .nil
  rw [Registry.unresolved, Registry.unresolved, ModelSet.augment, ModelSet.augment,
    List.forall₂_map_left_iff, List.forall₂_map_right_iff]
  apply hcol.imp
  intro m n hm
  have hn := Model.declaredName_eq hm.frame
  refine ⟨hm.frame, ?_⟩
  rw [Model.augment, Model.augment, h.ctorAccepts, hn]
  exact Method.augmentAll_perm _ hm.methods

end Registry.Reordered

end AngularClient
