import AngularClient.Proofs.Model.Kept
import AngularClient.Proofs.Relation.Described

/-! Classes declared under one name.  A model is collected from the last of them, but what the later
passes look up under the declared name is found in the first. -/

namespace AngularClient

namespace ModelClass

/-- What passes look up under a declared name is the same of two classes: the parameters of the
constructor, relations and exposed methods, and the properties where schemas are taken. -/
structure Agrees (o : Options) (c d : ModelClass) : Prop where
  accepts : c.ctor.bind (·.accepts) = d.ctor.bind (·.accepts)
  relations : c.relations = d.relations
  exposedMethods : c.exposedMethods = d.exposedMethods
  properties : o.includeSchema = true → c.properties = d.properties

def readFrom (c d : ModelClass) : ModelClass :=
  { c with
    ctor := some ⟨d.ctor.bind (·.accepts)⟩
    relations := d.relations
    exposedMethods := d.exposedMethods
    properties := d.properties }

end ModelClass

namespace Registry

def AgreesOn (o : Options) (r s : Registry) (declared : String) : Prop :=
  ∃ c d, r.class? declared = some c ∧ s.class? declared = some d ∧ c.Agrees o d

variable {r s : Registry} {o : Options} {m : Model}

section Lookups

variable {declared : String} (h : AgreesOn o r s declared)
include h

theorem AgreesOn.ctorAccepts : r.ctorAccepts declared = s.ctorAccepts declared := by
  obtain ⟨c, d, hc, hd, ha⟩ := h
  rw [Registry.ctorAccepts, Registry.ctorAccepts, hc, hd]
  exact ha.accepts

theorem AgreesOn.definition? (hs : o.includeSchema = true) :
    r.definition? declared = s.definition? declared := by
  obtain ⟨c, d, hc, hd, ha⟩ := h
  rw [Registry.definition?, Registry.definition?, hc, hd, Option.map_some, Option.map_some,
    ha.properties hs]

end Lookups

theorem AgreesOn.excludedBy (h : AgreesOn o r s m.declaredName) (method : String) :
    RelationMethod.excludedBy r m method = RelationMethod.excludedBy s m method := by
  obtain ⟨c, d, hc, hd, ha⟩ := h
  simp only [RelationMethod.excludedBy, hc, hd, ModelClass.exposes, ha.exposedMethods]

end Registry

def ModelSet.AgreesOn (o : Options) (r s : Registry) (set : ModelSet) : Prop :=
  ∀ m ∈ set, Registry.AgreesOn o r s m.declaredName

theorem RelationMethod.effect_congr {r s : Registry} {o : Options} {set : ModelSet}
    (h : set.AgreesOn o r s) (rel : RelationMethod) (source : Model)
    (x : Method) (targetClass : String) :
    rel.effect r o set source x targetClass = rel.effect s o set source x targetClass := by
  unfold effect
  split
  · rfl
  · rfl
  · split
    · rfl
    · next t ht =>
      cases htarget : set[t]? with
      | none => rfl
      | some target =>
        rw [Option.any_some, Option.any_some,
          (h target (List.mem_of_getElem? htarget)).excludedBy]

namespace ModelSet

variable {r s : Registry} {o : Options} {set : ModelSet} {i k : Nat}

@[simp] theorem map_frame_resolveMethod (r : Registry) (o : Options) (i k : Nat) (set : ModelSet) :
    (resolveMethod r o i k set).map Model.frame = set.map Model.frame := by
  have hstep := methodStep r o i k set
  generalize resolveMethod r o i k set = later at hstep
  cases hstep with
  | pass => rfl
  | skip =>
    refine map_modify ?_ _ _
    intro _
    rfl
  | attach =>
    refine (map_modify ?_ _ _).trans (map_modify ?_ _ _)
    · intro _; rfl
    · intro _; rfl

theorem agreesOn_of_frame {base : ModelSet} (hf : set.map Model.frame = base.map Model.frame)
    (h : base.AgreesOn o r s) : set.AgreesOn o r s := by
  intro m hm
  have hmem : m.frame ∈ base.map Model.frame := hf ▸ List.mem_map_of_mem hm
  obtain ⟨m', hm', hframe⟩ := List.mem_map.1 hmem
  rw [Model.declaredName_eq hframe.symm]
  exact h m' hm'

theorem resolveMethod_congr (h : set.AgreesOn o r s) :
    resolveMethod r o i k set = resolveMethod s o i k set := by
  -- up to the effect a step reads nothing but the relations of its source
  refine congrArg (Option.getD · set) ?_
  apply Option.bind_congr
  intro source hsource
  obtain ⟨c, d, hc, hd, ha⟩ := h source (List.mem_of_getElem? hsource)
  rw [hc, hd]
  simp only [Option.bind_eq_bind, Option.bind_some]
  apply Option.bind_congr
  intro x _
  apply Option.bind_congr
  intro rel _
  have ht : c.relationTarget rel.scope = d.relationTarget rel.scope := by
    rw [ModelClass.relationTarget, ha.relations, ModelClass.relationTarget]
  rw [ht]
  apply Option.bind_congr
  intro targetClass _
  rw [RelationMethod.effect_congr h]

theorem map_frame_foldl {α : Type} {f : ModelSet → α → ModelSet}
    (hf : ∀ set a, (f set a).map Model.frame = set.map Model.frame) (l : List α) (set : ModelSet) :
    (l.foldl f set).map Model.frame = set.map Model.frame := by
  induction l generalizing set with
  | nil => rfl
  | cons a l ih => rw [List.foldl_cons, ih, hf]

theorem foldl_congr {α : Type} {f g : ModelSet → α → ModelSet}
    (hframe : ∀ set a, (f set a).map Model.frame = set.map Model.frame)
    (hfg : ∀ set a, set.AgreesOn o r s → f set a = g set a) (l : List α) (h : set.AgreesOn o r s) :
    l.foldl f set = l.foldl g set := by
  induction l generalizing set with
  | nil => rfl
  | cons a l ih =>
    rw [List.foldl_cons, List.foldl_cons, ← hfg set a h]
    exact ih (agreesOn_of_frame (hframe set a) h)

@[simp] theorem map_frame_resolveModel (r : Registry) (o : Options) (set : ModelSet) (i : Nat) :
    (resolveModel r o set i).map Model.frame = set.map Model.frame :=
  map_frame_foldl (fun set k => map_frame_resolveMethod r o i k set) _ set

@[simp] theorem map_frame_resolveScopes (r : Registry) (o : Options) (set : ModelSet) :
    (set.resolveScopes r o).map Model.frame = set.map Model.frame :=
  map_frame_foldl (map_frame_resolveModel r o) _ set

theorem resolveScopes_congr (h : set.AgreesOn o r s) :
    set.resolveScopes r o = set.resolveScopes s o := by
  apply foldl_congr (map_frame_resolveModel r o) _ _ h
  intro set i h
  exact foldl_congr (fun set k => map_frame_resolveMethod r o i k set)
    (fun set k h => resolveMethod_congr h) _ h

end ModelSet

namespace Registry

variable {r s : Registry} {o : Options}

theorem describe_congr (hcollect : (s.collect o).models = (r.collect o).models)
    (h : (r.collect o).models.AgreesOn o r s) : r.describe o = s.describe o := by
  have hunresolved : r.unresolved o = s.unresolved o := by
    rw [unresolved, unresolved, hcollect]
    apply List.map_congr_left
    intro m hm
    rw [Model.augment, Model.augment, (h m hm).ctorAccepts]
  have hdeclared : (r.unresolved o).AgreesOn o r s := by
    intro m hm
    obtain ⟨m', hm', rfl⟩ := List.mem_map.1 hm
    exact h m' hm'
  have hresolved : r.resolved o = s.resolved o := by
    rw [resolved, resolved, ← unresolved, ← unresolved, ← hunresolved]
    exact ModelSet.resolveScopes_congr hdeclared
  have hschemas : o.includeSchema = true →
      (r.resolved o).takeSchemas r = (s.resolved o).takeSchemas s := by
    intro hs
    rw [← hresolved]
    apply List.map_congr_left
    intro m hm
    have hframe := ModelSet.map_frame_resolveScopes r o (r.unresolved o)
    rw [Model.withSchema, Model.withSchema,
      (ModelSet.agreesOn_of_frame hframe hdeclared m hm).definition? hs]
  rw [describe, describe]
  split
  · next hs => exact hschemas hs
  · exact hresolved

end Registry

namespace Collection

variable {o : Options}

theorem models_add_of_new {col : Collection} {c : ModelClass} (hc : c.retained o = true)
    (hnew : o.displayName c.name ∉ col.models.names) :
    (col.add o c).models = col.models ++ [Model.ofClass c (o.displayName c.name)] := by
  obtain ⟨hctor, hignores⟩ := ModelClass.retained_iff.1 hc
  have hany : col.models.any (·.name == o.displayName c.name) = false := by
    rw [← Bool.not_eq_true, ← ModelSet.find_isSome]
    simpa [ModelSet.find, ModelSet.names] using hnew
  simp only [add, hignores, hctor, hany, Bool.false_eq_true, if_false]

theorem models_ofClasses_filter {classes : List ModelClass}
    (hn : (classes.map fun c => o.displayName c.name).Nodup) :
    (ofClasses o classes).models =
      (classes.filter (·.retained o)).map fun c => Model.ofClass c (o.displayName c.name) := by
  induction classes using List.reverseRecOn with
  | nil => rfl
  | append_singleton classes c ih =>
    rw [List.map_append, List.nodup_append] at hn
    rw [ofClasses_append, List.filter_append, List.map_append, ← ih hn.1]
    cases hc : c.retained o with
    | false => rw [models_add_of_not_retained _ hc]; simp [hc]
    | true =>
      rw [models_add_of_new hc]
      · simp [hc]
      · rw [ih hn.1, ModelSet.names, List.map_map]
        intro hmem
        obtain ⟨d, hd, hname⟩ := List.mem_map.1 hmem
        exact hn.2.2 _ (List.mem_map_of_mem (List.mem_of_mem_filter hd)) _
          (List.mem_singleton_self _) hname

theorem models_ofClasses {classes : List ModelClass} (hc : ∀ c ∈ classes, c.retained o = true)
    (hn : (classes.map fun c => o.displayName c.name).Nodup) :
    (ofClasses o classes).models = classes.map fun c => Model.ofClass c (o.displayName c.name) := by
  rw [models_ofClasses_filter hn, List.filter_eq_self.2 hc]

end Collection

namespace Registry

variable {r : Registry} {o : Options} {source : ModelClass → ModelClass} {c : ModelClass}
  {name : String}

/-- The registry that declares each model once, by its kept class as it is read from another. -/
def declaringOnce (r : Registry) (o : Options) (source : ModelClass → ModelClass) : Registry :=
  { r with classes := (r.collect o).models.filterMap fun m =>
      (r.kept? o m.name).map fun c => c.readFrom (source c) }

theorem map_declaringOnce {α : Type} {f : ModelClass → α} {g : Model → α}
    (h : ∀ c name, r.kept? o name = some c → Model.ofClass c name ∈ (r.collect o).models →
      f (c.readFrom (source c)) = g (Model.ofClass c name)) :
    (r.declaringOnce o source).classes.map f = (r.collect o).models.map g := by
  rw [declaringOnce, List.map_filterMap, ← List.filterMap_eq_map]
  apply List.filterMap_congr
  intro m hm
  obtain ⟨c, hc, hmodel⟩ := Collection.exists_kept_of_mem hm
  have hkept : r.kept? o m.name = some c := hc
  rw [hkept, Option.map_some, Option.map_some, h c m.name hkept (hmodel ▸ hm), ← hmodel]
  rfl

theorem exists_of_mem_declaringOnce (hc : c ∈ (r.declaringOnce o source).classes) :
    ∃ c' name, r.kept? o name = some c' ∧ c = c'.readFrom (source c') := by
  obtain ⟨m, -, hm⟩ := List.mem_filterMap.1 hc
  obtain ⟨c', hc', rfl⟩ := Option.map_eq_some_iff.1 hm
  exact ⟨c', m.name, hc', rfl⟩

theorem mem_declaringOnce {m : Model} (hm : m ∈ (r.collect o).models)
    (hc : r.kept? o m.name = some c) :
    c.readFrom (source c) ∈ (r.declaringOnce o source).classes :=
  List.mem_filterMap.2 ⟨m, hm, by rw [hc]; rfl⟩

@[simp] theorem retained_declaringOnce (hc : c ∈ (r.declaringOnce o source).classes) :
    c.retained o = true := by
  obtain ⟨c', name, hc', rfl⟩ := exists_of_mem_declaringOnce hc
  have hr := ModelClass.retained_iff.1 (kept?_spec hc').2.1
  exact ModelClass.retained_iff.2 ⟨rfl, hr.2⟩

theorem nodup_declaringOnce (r : Registry) (o : Options) (source : ModelClass → ModelClass) :
    ((r.declaringOnce o source).classes.map fun c => o.displayName c.name).Nodup := by
  rw [map_declaringOnce (g := (·.name))]
  · exact Collection.nodup_names r.classes
  · intro c name hc _
    exact (kept?_spec hc).2.2

theorem collect_declaringOnce (r : Registry) (o : Options) (source : ModelClass → ModelClass) :
    ((r.declaringOnce o source).collect o).models = (r.collect o).models := by
  rw [collect, Collection.models_ofClasses (fun c hc => retained_declaringOnce hc)
    (nodup_declaringOnce r o source), map_declaringOnce (g := id), List.map_id]
  intro c name hc _
  have hname := (kept?_spec hc).2.2
  subst hname
  rfl

theorem unique_declaringOnce (hc : c ∈ (r.declaringOnce o source).classes) :
    (r.declaringOnce o source).kept? o (o.displayName c.name) = some c ∧
      (r.declaringOnce o source).class? c.name = some c := by
  have hn := nodup_declaringOnce r o source
  constructor
  · apply find?_eq_some_of_nodup (f := fun c => o.displayName c.name)
    · rw [List.map_reverse, List.nodup_reverse]
      exact hn
    · exact List.mem_reverse.2 hc
    · rw [retained_declaringOnce hc, Bool.true_and]
      exact beq_self_eq_true _
    · intro b _ hb
      rw [Bool.and_eq_true, beq_iff_eq] at hb
      exact hb.2
  · apply find?_eq_some_of_nodup hn hc
    · exact beq_self_eq_true c.name
    · intro b _ hb
      rw [eq_of_beq hb]

def first (r : Registry) (c : ModelClass) : ModelClass := (r.class? c.name).getD c

theorem describe_declaringOnce (h : ∀ m ∈ (r.collect o).models, ∀ c,
    r.kept? o m.name = some c → (r.first c).Agrees o (source c)) :
    r.describe o = (r.declaringOnce o source).describe o := by
  apply describe_congr (collect_declaringOnce r o source)
  intro m hm
  obtain ⟨c, hc, hmodel⟩ := Collection.exists_kept_of_mem hm
  have hkept : r.kept? o m.name = some c := hc
  have hdeclared : m.declaredName = c.name := congrArg Model.declaredName hmodel
  obtain ⟨d, hd⟩ := exists_class?_of_mem (kept?_spec hkept).1
  have hfirst : r.first c = d := by
    rw [first, hd]
    rfl
  have ha := h m hm c hkept
  rw [hfirst] at ha
  rw [hdeclared]
  exact ⟨d, c.readFrom (source c), hd, (unique_declaringOnce (mem_declaringOnce hm hkept)).2,
    ha.accepts, ha.relations, ha.exposedMethods, ha.properties⟩

end Registry

end AngularClient
