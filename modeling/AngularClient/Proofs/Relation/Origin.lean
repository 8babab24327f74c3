import AngularClient.Proofs.Model.Kept
import AngularClient.Proofs.Relation.Described

namespace AngularClient

inductive RemoteMethod.Lends (declared : String) (y : RemoteMethod) : String → Prop
  | own : Lends declared y y.name
  | many (h : y.name = "create") : Lends declared y "createMany"
  | reverse {rel : RelationMethod} (h : RelationMethod.parse? y.name = some rel) :
      Lends declared y (rel.reverseName declared)
  | reverseMany {rel : RelationMethod} (h : RelationMethod.parse? y.name = some rel)
      (hc : mentionsCreate (rel.reverseName declared) = true) :
      Lends declared y (toCreateMany (rel.reverseName declared))

namespace Method

def frame (x : Method) : Method := { x with name := "", returnsArray := false, internal := none }

/-- Whether a method is made from a method of a class, with the constructor's parameters that are
found under the name of the class. -/
structure DescendsFrom (r : Registry) (c : ModelClass) (y : RemoteMethod) (x : Method) : Prop where
  name : y.Lends c.name x.name
  frame : x.frame = ((ofRemote y x.owner).augment (r.ctorAccepts c.name)).frame

variable {accepts : Option (List Parameter)} {methods : List Method} {x y : Method}

@[simp] theorem frame_renamed (x : Method) (name : String) : (x.renamed name).frame = x.frame := rfl

@[simp] theorem frame_returningArray (x : Method) (name : String) :
    (x.returningArray name).frame = x.frame := rfl

@[simp] theorem frame_withInternal (x : Method) (note : Option String) :
    (x.withInternal note).frame = x.frame := rfl

theorem owner_eq (h : y.frame = x.frame) : y.owner = x.owner := by
  have howner := congrArg owner h
  exact howner

theorem binding_eq (h : y.frame = x.frame) : y.binding = x.binding := by
  have hbinding := congrArg binding h
  exact hbinding

theorem exists_of_mem_augmentAll (hy : y ∈ augmentAll accepts methods) :
    ∃ x ∈ methods, y.frame = (x.augment accepts).frame ∧
      (y.name = x.name ∨ x.name = "create" ∧ y.name = "createMany") := by
  rw [augmentAll, addCreateMany, List.mem_append, Option.mem_toList] at hy
  rcases hy with hy | hy
  · obtain ⟨x, hx, rfl⟩ := List.mem_map.1 hy
    exact ⟨x, hx, rfl, .inl rfl⟩
  · obtain ⟨create, hcreate, hname, rfl⟩ := exists_create_of_mem_createTwin? hy
    obtain ⟨x, hx, rfl⟩ := List.mem_map.1 hcreate
    exact ⟨x, hx, rfl, .inr ⟨hname, rfl⟩⟩

end Method

namespace RelationMethod

variable {rel : RelationMethod} {m : Model} {x y : Method}

theorem frame_of_mem_reverses (hy : y ∈ rel.reverses m x) : y.frame = x.frame := by
  simp only [reverses] at hy
  split at hy
  · rcases List.mem_cons.1 hy with rfl | hy
    · simp
    · simp [List.mem_singleton.1 hy]
  · simp [List.mem_singleton.1 hy]

theorem lends_of_mem_reverses {z : RemoteMethod} (hz : parse? z.name = some rel)
    (hy : y ∈ rel.reverses m x) : z.Lends m.declaredName y.name := by
  simp only [reverses] at hy
  split at hy
  · next hc =>
    rcases List.mem_cons.1 hy with rfl | hy
    · exact .reverse hz
    · rw [List.mem_singleton.1 hy]
      exact .reverseMany hz hc
  · rw [List.mem_singleton.1 hy]
    exact .reverse hz

theorem binding_of_mem_reverses (hy : y ∈ rel.reverses m x) : y.binding = x.binding :=
  Method.binding_eq (frame_of_mem_reverses hy)

theorem owner_of_mem_reverses (hy : y ∈ rel.reverses m x) : y.owner = x.owner :=
  Method.owner_eq (frame_of_mem_reverses hy)

end RelationMethod

namespace Model

variable {r : Registry} {o : Options} {base : ModelSet} {m : Model} {k : Nat} {x y : Method}

@[simp] theorem frame_marked : (m.marked r o base k x).frame = x.frame := by
  unfold marked
  split <;> rfl

@[simp] theorem name_marked : (m.marked r o base k x).name = x.name := by
  unfold marked
  split <;> rfl

@[simp] theorem binding_marked : (m.marked r o base k x).binding = x.binding :=
  Method.binding_eq frame_marked

theorem exists_of_mem_ownMethods (hy : y ∈ m.ownMethods r o base k) :
    ∃ x ∈ m.methods, y.frame = x.frame ∧ y.name = x.name := by
  obtain ⟨j, hj⟩ := List.getElem?_of_mem hy
  rw [getElem?_ownMethods, Option.map_eq_some_iff] at hj
  obtain ⟨x, hx, rfl⟩ := hj
  refine ⟨x, List.mem_of_getElem? hx, ?_⟩
  split
  · exact ⟨frame_marked, name_marked⟩
  · exact ⟨rfl, rfl⟩

theorem exists_ownMethod_of_mem (hx : x ∈ m.methods) :
    ∃ y ∈ m.ownMethods r o base k, y.frame = x.frame := by
  obtain ⟨j, hj⟩ := List.getElem?_of_mem hx
  have hown : (m.ownMethods r o base k)[j]? = _ := m.getElem?_ownMethods j
  rw [hj, Option.map_some] at hown
  refine ⟨_, List.mem_of_getElem? hown, ?_⟩
  split
  · exact frame_marked
  · rfl

theorem exists_attachment_of_mem_sent {name : String} (hy : y ∈ m.sent r o base k name) :
    ∃ k' a, m.attachment? r o base k' = some a ∧ y ∈ a.rel.reverses m a.method := by
  rw [sent_eq, List.mem_flatMap] at hy
  obtain ⟨a, ha, hy⟩ := hy
  obtain ⟨k', -, ha⟩ := mem_attachments.1 ha
  split at hy
  · exact ⟨k', a, ha, hy⟩
  · cases hy

end Model

namespace Registry

variable {r : Registry} {o : Options} {m n : Model} {x y : Method}

theorem exists_declared_of_mem_unresolved (hm : m ∈ r.unresolved o) (hx : x ∈ m.methods) :
    ∃ c, r.kept? o m.name = some c ∧ c.name = m.declaredName ∧ ∃ y ∈ c.methods,
      x.frame = ((Method.ofRemote y m.name).augment (r.ctorAccepts c.name)).frame ∧
        (x.name = y.name ∨ y.name = "create" ∧ x.name = "createMany") := by
  obtain ⟨m', hm', rfl⟩ := List.mem_map.1 hm
  obtain ⟨c, hc, hmodel⟩ := Collection.exists_kept_of_mem hm'
  have hdeclared : m'.declaredName = c.name := congrArg Model.declaredName hmodel
  have hmethods : m'.methods = c.methods.map (Method.ofRemote · m'.name) :=
    congrArg Model.methods hmodel
  obtain ⟨z, hz, hframe, hname⟩ := Method.exists_of_mem_augmentAll hx
  rw [hmethods] at hz
  obtain ⟨y, hy, rfl⟩ := List.mem_map.1 hz
  rw [hdeclared] at hframe
  exact ⟨c, hc, hdeclared.symm, y, hy, hframe, hname⟩

theorem owner_of_mem_unresolved (hm : m ∈ r.unresolved o) (hx : x ∈ m.methods) :
    x.owner = m.name := by
  obtain ⟨c, -, -, y, -, hframe, -⟩ := exists_declared_of_mem_unresolved hm hx
  exact Method.owner_eq hframe

theorem exists_declared (hn : n ∈ r.describe o) (hx : x ∈ n.methods) :
    ∃ c, r.kept? o x.owner = some c ∧ ∃ y ∈ c.methods, x.DescendsFrom r c y := by
  obtain ⟨m, hm, h⟩ := exists_unresolved_of_mem hn
  rw [h.methods, List.mem_append] at hx
  rcases hx with hx | hx
  · obtain ⟨z, hz, hframe, hname⟩ := Model.exists_of_mem_ownMethods hx
    obtain ⟨c, hc, -, y, hy, horigin, hlends⟩ := exists_declared_of_mem_unresolved hm hz
    have howner : x.owner = m.name := Method.owner_eq (hframe.trans horigin)
    refine ⟨c, by rw [howner, hc], y, hy, ?_, by rw [hframe, horigin, howner]⟩
    rw [hname]
    rcases hlends with hlends | ⟨hcreate, hlends⟩
    · exact hlends ▸ .own
    · exact hlends ▸ .many hcreate
  · obtain ⟨m', hm', hx⟩ := List.mem_flatMap.1 hx
    obtain ⟨k, a, ha, hx⟩ := Model.exists_attachment_of_mem_sent hx
    obtain ⟨hz, hparsed, -⟩ := Model.attachment?_eq_some_iff.1 ha
    obtain ⟨c, hc, hdeclared, y, hy, horigin, hlends⟩ :=
      exists_declared_of_mem_unresolved hm' (List.mem_of_getElem? hz)
    have hframe := RelationMethod.frame_of_mem_reverses hx
    have howner : x.owner = m'.name := Method.owner_eq (hframe.trans horigin)
    refine ⟨c, by rw [howner, hc], y, hy, ?_, by rw [hframe, horigin, howner]⟩
    -- a twin for many is no relation method, so it has no reverse methods
    have hname : a.method.name = y.name := by
      rcases hlends with hlends | ⟨-, hlends⟩
      · exact hlends
      · have hnone : RelationMethod.parse? "createMany" = none := by decide
        rw [hlends, hnone] at hparsed
        cases hparsed
    rw [hname] at hparsed
    rw [hdeclared]
    exact RelationMethod.lends_of_mem_reverses hparsed hx

theorem forall_frame_describe {p : Method → Prop} :
    (∀ n ∈ r.describe o, ∀ x ∈ n.methods, p x.frame) ↔
      ∀ m ∈ (r.collect o).models, ∃ c, r.kept? o m.name = some c ∧ ∀ y ∈ c.methods,
        p ((Method.ofRemote y m.name).augment (r.ctorAccepts c.name)).frame := by
  constructor
  · intro hp m hm
    obtain ⟨c, hc, hmodel⟩ := Collection.exists_kept_of_mem hm
    refine ⟨c, hc, ?_⟩
    intro y hy
    have hdeclared : m.declaredName = c.name := congrArg Model.declaredName hmodel
    have hmethods : m.methods = c.methods.map (Method.ofRemote · m.name) :=
      congrArg Model.methods hmodel
    have hx : (Method.ofRemote y m.name).augment (r.ctorAccepts c.name) ∈
        (m.augment r).methods := by
      refine List.mem_append_left _ ?_
      rw [hmethods, hdeclared]
      exact List.mem_map_of_mem (List.mem_map_of_mem hy)
    obtain ⟨n, hn, h⟩ := exists_described_of_mem (List.mem_map_of_mem (f := (·.augment r)) hm)
    obtain ⟨z, hz, hframe⟩ := Model.exists_ownMethod_of_mem hx
    rw [← hframe]
    refine hp n hn z ?_
    rw [h.methods]
    exact List.mem_append_left _ hz
  · intro hp n hn x hx
    obtain ⟨c, hc, y, hy, hdescends⟩ := exists_declared hn hx
    obtain ⟨c', hc', hp⟩ := hp _ (mem_collect_of_kept hc)
    obtain rfl := Option.some.inj (hc.symm.trans hc')
    rw [hdescends.frame]
    exact hp y hy

theorem forall_binding_describe {p : HttpBinding → Prop} :
    (∀ n ∈ r.describe o, ∀ x ∈ n.methods, p x.binding) ↔
      ∀ m ∈ (r.collect o).models,
        ∃ c, r.kept? o m.name = some c ∧ ∀ y ∈ c.methods, p y.binding :=
  forall_frame_describe (p := fun x => p x.binding)

end Registry

end AngularClient
