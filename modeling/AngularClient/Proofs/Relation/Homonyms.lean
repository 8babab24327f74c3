import AngularClient.Proofs.Relation.Reachable
import AngularClient.Proofs.Relation.Spelling

/-! Reverse methods of one name.  A model has reverse methods of all relation methods that lead to
it, whichever model they belong to; which of those get one name decides whether the name tells where
a call of it goes. -/

namespace AngularClient

structure Source where
  model : Model
  rel : RelationMethod
  method : Method

namespace Source

def reverseName (p : Source) : String := p.rel.reverseName p.model.declaredName

def reverses (p : Source) : List Method := p.rel.reverses p.model p.method

def names (p : Source) : List String :=
  p.reverseName :: if mentionsCreate p.reverseName then [toCreateMany p.reverseName] else []

/-- A described method leads to the model of a name if its relation is resolved to that, and if it
has the note that it is reached from there. -/
structure LeadsTo (set : ModelSet) (target : String) (p : Source) : Prop where
  model : p.model ∈ set
  method : p.method ∈ p.model.methods
  parsed : RelationMethod.parse? p.method.name = some p.rel
  marked : p.method.internal.isSome = true
  target : (p.model.scope? p.rel.scope).map (·.target) = some target

structure Shown (p q : Source) : Prop where
  name : q.model.name = p.model.name
  declaredName : q.model.declaredName = p.model.declaredName
  rel : q.rel = p.rel
  method : q.method.name = p.method.name
  binding : q.method.binding = p.method.binding

variable {p q : Source} {y : Method}

theorem Shown.reverseName (h : p.Shown q) : q.reverseName = p.reverseName := by
  rw [Source.reverseName, Source.reverseName, h.rel, h.declaredName]

@[simp] theorem map_name_reverses (p : Source) : p.reverses.map (·.name) = p.names := by
  have hname : p.rel.reverseName p.model.declaredName = p.reverseName := rfl
  simp only [reverses, RelationMethod.reverses, hname, names]
  split <;> rfl

@[simp] theorem mem_names {name : String} : name ∈ p.names ↔
    name = p.reverseName ∨
      mentionsCreate p.reverseName = true ∧ name = toCreateMany p.reverseName := by
  simp [names]

theorem Shown.names (h : p.Shown q) : q.names = p.names := by
  rw [Source.names, Source.names, h.reverseName]

theorem name_of_mem_reverses (hy : y ∈ p.reverses) : y.name ∈ p.names := by
  rw [← map_name_reverses]
  exact List.mem_map_of_mem hy

theorem exists_of_mem_names {name : String} (h : name ∈ p.names) :
    ∃ y ∈ p.reverses, y.name = name := by
  rwa [← map_name_reverses, List.mem_map] at h

theorem exists_mem_names_iff : (∃ name ∈ p.names, name ∈ q.names) ↔
    p.reverseName = q.reverseName ∨
      mentionsCreate p.reverseName = true ∧ toCreateMany p.reverseName = q.reverseName ∨
      mentionsCreate q.reverseName = true ∧ toCreateMany q.reverseName = p.reverseName := by
  simp only [mem_names]
  constructor
  · rintro ⟨name, rfl | ⟨hp, rfl⟩, h | ⟨hq, h⟩⟩
    · exact .inl h
    · exact .inr (.inr ⟨hq, h.symm⟩)
    · exact .inr (.inl ⟨hp, h⟩)
    · exact .inl (toCreateMany_inj hp hq h)
  · rintro (h | ⟨hp, h⟩ | ⟨hq, h⟩)
    · exact ⟨_, .inl rfl, .inl h⟩
    · exact ⟨_, .inr ⟨hp, rfl⟩, .inl h⟩
    · exact ⟨_, .inl rfl, .inr ⟨hq, h.symm⟩⟩

end Source

def ModelSet.sources (r : Registry) (o : Options) (base : ModelSet) (target : String) :
    List Source :=
  base.flatMap fun m =>
    ((m.attachments r o base m.methods.length).filter (·.target.name == target)).map fun a =>
      ⟨m, a.rel, a.method⟩

namespace ModelSet

variable {r : Registry} {o : Options} {base : ModelSet} {target : String} {p : Source}

theorem mem_sources : p ∈ base.sources r o target ↔ p.model ∈ base ∧
    ∃ k a, p.model.attachment? r o base k = some a ∧ a.target.name = target ∧ a.rel = p.rel ∧
      a.method = p.method := by
  simp only [sources, List.mem_flatMap, List.mem_map, List.mem_filter, Model.mem_attachments,
    beq_iff_eq]
  constructor
  · rintro ⟨m, hm, a, ⟨⟨k, -, ha⟩, htarget⟩, rfl⟩
    exact ⟨hm, k, a, ha, htarget, rfl, rfl⟩
  · rintro ⟨hm, k, a, ha, htarget, hrel, hmethod⟩
    have hk := (List.getElem?_eq_some_iff.1 (Model.attachment?_eq_some_iff.1 ha).1).1
    refine ⟨p.model, hm, a, ⟨⟨k, hk, ha⟩, htarget⟩, ?_⟩
    rw [hrel, hmethod]

theorem reversesFor_eq (name : String) :
    base.reversesFor r o name = (base.sources r o name).flatMap Source.reverses := by
  rw [reversesFor, sources, List.flatMap_assoc]
  congr 1
  funext m
  rw [Model.sent_eq]
  induction m.attachments r o base m.methods.length with
  | nil => rfl
  | cons a attached ih =>
    rw [List.flatMap_cons, ih, List.filter_cons]
    by_cases h : a.target.name = name
    · simp [h, Source.reverses]
    · simp [h]

end ModelSet

namespace Registry

variable {r : Registry} {o : Options} {m n : Model} {x y : Method} {p q : Source} {target : String}
  {i : Nat}

theorem exists_source (hq : q.LeadsTo (r.describe o) target) :
    ∃ p ∈ (r.unresolved o).sources r o target, p.Shown q := by
  obtain ⟨m, hm, h⟩ := exists_unresolved_of_mem hq.model
  obtain ⟨k, hk⟩ := List.getElem?_of_mem hq.method
  obtain ⟨a, ha, harel, hqmarked⟩ := h.exists_attachment hm hk hq.parsed hq.marked
  have htarget := h.resolved.target_of_attachment ha
  have hscope : q.model.scope? a.rel.scope =
      Model.scope? { q.model with schema := m.schema } a.rel.scope := rfl
  refine ⟨⟨m, a.rel, a.method⟩, ?_, h.name, h.declaredName, harel.symm, ?_, ?_⟩
  · refine ModelSet.mem_sources.2 ⟨hm, k, a, ha, ?_, rfl, rfl⟩
    rw [← hscope, harel, hq.target] at htarget
    exact (Option.some.inj htarget).symm
  · simp [hqmarked]
  · simp [hqmarked]

theorem exists_leadsTo (hp : p ∈ (r.unresolved o).sources r o target) :
    ∃ q : Source, q.LeadsTo (r.describe o) target ∧ p.Shown q := by
  obtain ⟨hm, k, a, ha, rfl, hrel, hmethod⟩ := ModelSet.mem_sources.1 hp
  obtain ⟨n, hn, h⟩ := exists_described_of_mem hm
  obtain ⟨hx, hparsed, -⟩ := Model.attachment?_eq_some_iff.1 ha
  have hy : n.methods[k]? = _ := h.resolved.getElem?_methods hx
  refine ⟨⟨n, p.rel, p.model.marked r o (r.unresolved o) k a.method⟩, ⟨hn, ?_, ?_, ?_, ?_⟩, h.name,
    h.declaredName, rfl, ?_, ?_⟩
  · exact List.mem_of_getElem? hy
  · simp [hparsed, hrel]
  · rw [Model.Resolved.internal_isSome_iff ((fresh_unresolved r o).unmarked _ hm _
      (List.mem_of_getElem? hx)), ha]
    rfl
  · rw [← hrel]
    exact h.resolved.target_of_attachment ha
  · simp [hmethod]
  · simp [hmethod]

theorem owned_of_mem_reverses (hp : p ∈ (r.unresolved o).sources r o target)
    (hy : y ∈ p.reverses) : y.owner = p.model.name ∧ y.binding = p.method.binding := by
  obtain ⟨hm, k, a, ha, -, -, hmethod⟩ := ModelSet.mem_sources.1 hp
  have hx := List.mem_of_getElem? (Model.attachment?_eq_some_iff.1 ha).1
  rw [hmethod] at hx
  exact ⟨(RelationMethod.owner_of_mem_reverses hy).trans (owner_of_mem_unresolved hm hx),
    RelationMethod.binding_of_mem_reverses hy⟩

/-- The name of a reverse method tells where it goes just if relation methods whose reverse methods
share a name belong to one model and have one binding. -/
theorem reverses_agree_iff (hm : (r.unresolved o)[i]? = some m) (hn : (r.describe o)[i]? = some n) :
    (∀ y ∈ n.methods.drop m.methods.length, ∀ z ∈ n.methods.drop m.methods.length,
      y.name = z.name → y.owner = z.owner ∧ y.binding = z.binding) ↔
    ∀ p q : Source, p.LeadsTo (r.describe o) n.name → q.LeadsTo (r.describe o) n.name →
      (p.reverseName = q.reverseName ∨ mentionsCreate p.reverseName = true ∧
        toCreateMany p.reverseName = q.reverseName) →
      p.model.name = q.model.name ∧ p.method.binding = q.method.binding := by
  obtain ⟨n', hn', h⟩ := exists_described hm
  obtain rfl := Option.some.inj (hn.symm.trans hn')
  have hdrop : n.methods.drop m.methods.length =
      ((r.unresolved o).sources r o n.name).flatMap Source.reverses := by
    rw [h.methods, h.name, ModelSet.reversesFor_eq]
    exact List.drop_left' Model.length_ownMethods
  rw [hdrop]
  simp only [List.mem_flatMap]
  constructor
  · intro hagree p q hp hq hnames
    obtain ⟨p', hp', hshown⟩ := exists_source hp
    obtain ⟨q', hq', hshown'⟩ := exists_source hq
    have hcommon : ∃ name ∈ p'.names, name ∈ q'.names := by
      rw [← hshown.names, ← hshown'.names, Source.exists_mem_names_iff]
      exact hnames.imp_right .inl
    obtain ⟨name, hname, hname'⟩ := hcommon
    obtain ⟨y, hy, hyname⟩ := Source.exists_of_mem_names hname
    obtain ⟨z, hz, hzname⟩ := Source.exists_of_mem_names hname'
    have hyz := hagree y ⟨p', hp', hy⟩ z ⟨q', hq', hz⟩ (hyname.trans hzname.symm)
    obtain ⟨hyowner, hybinding⟩ := owned_of_mem_reverses hp' hy
    obtain ⟨hzowner, hzbinding⟩ := owned_of_mem_reverses hq' hz
    rw [hyowner, hybinding, hzowner, hzbinding] at hyz
    rw [hshown.name, hshown'.name, hshown.binding, hshown'.binding]
    exact hyz
  · rintro hagree y ⟨p', hp', hy⟩ z ⟨q', hq', hz⟩ hyz
    obtain ⟨p, hp, hshown⟩ := exists_leadsTo hp'
    obtain ⟨q, hq, hshown'⟩ := exists_leadsTo hq'
    have hcommon : ∃ name ∈ p.names, name ∈ q.names := by
      rw [hshown.names, hshown'.names]
      exact ⟨y.name, Source.name_of_mem_reverses hy, hyz ▸ Source.name_of_mem_reverses hz⟩
    obtain ⟨hyowner, hybinding⟩ := owned_of_mem_reverses hp' hy
    obtain ⟨hzowner, hzbinding⟩ := owned_of_mem_reverses hq' hz
    rw [hyowner, hybinding, hzowner, hzbinding, ← hshown.name, ← hshown'.name, ← hshown.binding,
      ← hshown'.binding]
    rw [Source.exists_mem_names_iff] at hcommon
    rcases hcommon with h | h | h
    · exact hagree p q hp hq (.inl h)
    · exact hagree p q hp hq (.inr h)
    · exact (hagree q p hq hp (.inr h)).imp Eq.symm Eq.symm

/-- Authors have parts, of which they create one or, at another path, many. -/
def authors : Registry where
  remotingVersion := 3
  classes := [
    { name := "author"
      ctor := some ⟨none⟩
      description := none
      httpPath := none
      prototypeChain := []
      relations := [("parts", ⟨some "part", none⟩)]
      exposedMethods := none
      methods := [
        .served "prototype.__create__parts" "/authors/:id/parts",
        .served "prototype.__createMany__parts" "/authors/:id/parts/many"]
      properties := [] },
    { name := "part"
      ctor := some ⟨none⟩
      description := none
      httpPath := none
      prototypeChain := []
      relations := []
      exposedMethods := none
      methods := []
      properties := [] }]

theorem reverses_agree_iff_authors :
    ∃ m n, (authors.unresolved .default)[1]? = some m ∧ (authors.describe .default)[1]? = some n ∧
      ¬ ∀ y ∈ n.methods.drop m.methods.length, ∀ z ∈ n.methods.drop m.methods.length,
        y.name = z.name → y.owner = z.owner ∧ y.binding = z.binding := by
  have hpart : ((authors.describe .default)[1]?).any (·.name == "Part") = true := by decide +kernel
  have hauthor : ((authors.describe .default).any fun n => n.declaredName == "author" &&
      (n.scope? "parts").map (·.target) == some "Part" &&
      n.methods.any fun x => n.methods.any fun y =>
        RelationMethod.parse? x.name == some ⟨"create", "parts"⟩ && x.internal.isSome &&
        RelationMethod.parse? y.name == some ⟨"createMany", "parts"⟩ && y.internal.isSome &&
        x.binding != y.binding) = true := by decide +kernel
  simp only [List.any_eq_true, Bool.and_eq_true, beq_iff_eq, bne_iff_ne] at hauthor
  obtain ⟨a, ha, ⟨hdeclared, htarget⟩, x, hx, y, hy, hpair⟩ := hauthor
  obtain ⟨⟨⟨⟨hparsed, hmarked⟩, hparsed'⟩, hmarked'⟩, hne⟩ := hpair
  cases hn : (authors.describe .default)[1]? with
  | none =>
    rw [hn] at hpart
    cases hpart
  | some n =>
    rw [hn, Option.any_some, beq_iff_eq] at hpart
    obtain ⟨m, hm, -⟩ := exists_unresolved hn
    refine ⟨m, n, hm, rfl, ?_⟩
    rw [reverses_agree_iff hm hn, hpart]
    intro hagree
    have hnames := hagree ⟨a, _, x⟩ ⟨a, _, y⟩ ⟨ha, hx, hparsed, hmarked, htarget⟩
      ⟨ha, hy, hparsed', hmarked', htarget⟩
    rw [Source.reverseName, Source.reverseName, hdeclared] at hnames
    have hmany : mentionsCreate (RelationMethod.reverseName ⟨"create", "parts"⟩ "author") = true ∧
        toCreateMany (RelationMethod.reverseName ⟨"create", "parts"⟩ "author") =
          RelationMethod.reverseName ⟨"createMany", "parts"⟩ "author" := by decide
    exact hne (hnames (.inr hmany)).2

end Registry

end AngularClient
