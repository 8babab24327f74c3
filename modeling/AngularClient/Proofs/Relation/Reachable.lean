import AngularClient.Proofs.Relation.Entries
import AngularClient.Proofs.Relation.Grammar
import AngularClient.Proofs.Relation.Origin
import AngularClient.Proofs.Relation.Reverses

namespace AngularClient

namespace Method

variable {accepts : Option (List Parameter)} {methods : List Method} {x y : Method} {j k : Nat}
  {rel : RelationMethod}

theorem name_of_mem_createTwin? (h : x ∈ createTwin? methods) : x.name = "createMany" := by
  obtain ⟨create, -, -, rfl⟩ := exists_create_of_mem_createTwin? h
  rfl

theorem eq_of_parse?_augmentAll (hn : (methods.map (·.name)).Nodup)
    (hx : (augmentAll accepts methods)[j]? = some x)
    (hy : (augmentAll accepts methods)[k]? = some y)
    (hpx : RelationMethod.parse? x.name = some rel)
    (hpy : RelationMethod.parse? y.name = some rel) : j = k := by
  -- the one method that augmenting adds is `createMany`, which is no relation method
  have hown : ∀ {i : Nat} {z : Method}, (augmentAll accepts methods)[i]? = some z →
      RelationMethod.parse? z.name = some rel → (methods.map (·.name))[i]? = some z.name := by
    intro i z hz hrel
    rw [augmentAll, addCreateMany, List.getElem?_append] at hz
    split at hz
    · rw [List.getElem?_map, Option.map_eq_some_iff] at hz
      obtain ⟨z', hz', rfl⟩ := hz
      rw [List.getElem?_map, hz']
      rfl
    · have hmem := Option.mem_toList.1 (List.mem_of_getElem? hz)
      have hnone : RelationMethod.parse? "createMany" = none := by decide
      rw [name_of_mem_createTwin? hmem, hnone] at hrel
      cases hrel
  have hxj := hown hx hpx
  have hyk := hown hy hpy
  rw [RelationMethod.name_of_parse? hpx, ← RelationMethod.name_of_parse? hpy] at hxj
  obtain ⟨hj, hxj⟩ := List.getElem?_eq_some_iff.1 hxj
  obtain ⟨hk, hyk⟩ := List.getElem?_eq_some_iff.1 hyk
  exact hn.getElem_inj_iff.1 (hxj.trans hyk.symm)

end Method

namespace Model

variable {r : Registry} {o : Options} {base : ModelSet} {m n : Model} {j k : Nat} {x y z : Method}
  {rel other : RelationMethod} {a : Attachment}

@[simp] theorem accepts_marked : (m.marked r o base k x).accepts = x.accepts := by
  unfold marked
  split <;> rfl

@[simp] theorem returnsArray_marked : (m.marked r o base k x).returnsArray = x.returnsArray := by
  unfold marked
  split <;> rfl

theorem attachment?_of_le (ha : m.attachment? r o base k = some a) (hkj : k ≤ j)
    (hx : m.methods[j]? = some x) (hrel : RelationMethod.parse? x.name = some rel)
    (hs : rel.scope = a.rel.scope) : m.attachment? r o base j = some ⟨rel, x, a.target⟩ := by
  obtain ⟨-, -, hd, k', hk', y, hy, hworks, hexposes⟩ := attachment?_eq_some_iff.1 ha
  rw [← hs] at hd hworks
  exact attachment?_eq_some_iff.2
    ⟨hx, hrel, hd, k', hk'.trans hkj, y, hy, hworks, hexposes⟩

@[simp] theorem reverses_marked {e : Method} {name : String} :
    e.Reverses name (m.marked r o base k x) ↔ e.Reverses name x := by
  constructor
  · intro h
    exact ⟨h.name, h.accepts.trans accepts_marked, h.binding.trans binding_marked,
      h.returnsArray.trans returnsArray_marked⟩
  · intro h
    exact ⟨h.name, h.accepts.trans accepts_marked.symm, h.binding.trans binding_marked.symm,
      h.returnsArray.trans returnsArray_marked.symm⟩

@[simp] theorem spares_marked : rel.Spares (m.marked r o base k x) other (m.marked r o base j z) ↔
    rel.Spares x other z := by
  simp [RelationMethod.Spares]

theorem Becomes.exists_own (h : m.Becomes r o n) (hy : n.methods[k]? = some y)
    (hrel : RelationMethod.parse? y.name = some rel) :
    ∃ x, m.methods[k]? = some x ∧ y = m.marked r o (r.unresolved o) k x := by
  cases hx : m.methods[k]? with
  | some x =>
    have hown := h.resolved.getElem?_methods hx
    exact ⟨x, rfl, Option.some.inj (hy.symm.trans hown)⟩
  | none =>
    rw [List.getElem?_eq_none_iff] at hx
    rw [h.methods, List.getElem?_append_right (by simpa using hx)] at hy
    obtain ⟨m', -, hy⟩ := List.mem_flatMap.1 (List.mem_of_getElem? hy)
    obtain ⟨k', -, hy⟩ := List.mem_flatMap.1 hy
    rw [ModelSet.parse?_of_mem_reversesAt hy] at hrel
    cases hrel

namespace Becomes

variable (h : m.Becomes r o n) (hm : m ∈ r.unresolved o)
include h hm

theorem exists_attachment (hy : n.methods[k]? = some y)
    (hrel : RelationMethod.parse? y.name = some rel) (hmarked : y.internal.isSome = true) :
    ∃ a, m.attachment? r o (r.unresolved o) k = some a ∧ a.rel = rel ∧
      y = m.marked r o (r.unresolved o) k a.method := by
  obtain ⟨x, hx, rfl⟩ := h.exists_own hy hrel
  rw [Resolved.internal_isSome_iff ((Registry.fresh_unresolved r o).unmarked m hm x
    (List.mem_of_getElem? hx)), Option.isSome_iff_exists] at hmarked
  obtain ⟨a, ha⟩ := hmarked
  obtain ⟨hax, harel, -⟩ := attachment?_eq_some_iff.1 ha
  obtain rfl : a.method = x := Option.some.inj (hax.symm.trans hx)
  rw [name_marked, harel] at hrel
  exact ⟨a, ha, Option.some.inj hrel, rfl⟩

theorem exists_marked (ha : m.attachment? r o (r.unresolved o) k = some a) :
    ∃ y, n.methods[k]? = some y ∧ RelationMethod.parse? y.name = some a.rel ∧
      y.internal.isSome = true := by
  obtain ⟨hx, hrel, -⟩ := attachment?_eq_some_iff.1 ha
  refine ⟨_, h.resolved.getElem?_methods hx, ?_, ?_⟩
  · simp [hrel]
  · rw [Resolved.internal_isSome_iff ((Registry.fresh_unresolved r o).unmarked m hm _
      (List.mem_of_getElem? hx)), ha]
    rfl

end Becomes

end Model

namespace Registry

variable {r : Registry} {o : Options} {m n : Model} {k : Nat} {y : Method} {rel : RelationMethod}

theorem distinct_unresolved (hnames : ∀ c ∈ r.classes, (c.methods.map (·.name)).Nodup)
    (hm : m ∈ r.unresolved o) : m.Distinct r o (r.unresolved o) := by
  obtain ⟨m', hm', rfl⟩ := List.mem_map.1 hm
  obtain ⟨c, hc, -, -, rfl⟩ := Collection.exists_class_of_mem hm'
  intro j k a b ha hb hab
  obtain ⟨ha, hpa, -⟩ := Model.attachment?_eq_some_iff.1 ha
  obtain ⟨hb, hpb, -⟩ := Model.attachment?_eq_some_iff.1 hb
  rw [← hab] at hpb
  refine Method.eq_of_parse?_augmentAll ?_ ha hb hpa hpb
  have hn : (c.methods.map (Method.ofRemote · (o.displayName c.name))).map (·.name) =
      c.methods.map (·.name) := by
    rw [List.map_map]
    rfl
  rw [Model.ofClass, hn]
  exact hnames c hc

/-- A marked relation method is reached through its accessor just if its own twin does not have the
accessor, as it does where only the name of the model mentions `create`, and no later method of the
relation shares the accessor or has a twin of another content there. -/
theorem entry_reverses_iff (hnames : ∀ c ∈ r.classes, (c.methods.map (·.name)).Nodup)
    (hn : n ∈ r.describe o) (hy : n.methods[k]? = some y)
    (hrel : RelationMethod.parse? y.name = some rel) (hmarked : y.internal.isSome = true) :
    ∃ s e, n.scope? rel.scope = some s ∧ s.methods.find? rel.apiName = some e ∧
      (e.Reverses (rel.reverseName n.declaredName) y ↔
        ¬ rel.DoublesItself n.declaredName ∧
          ∀ j z other, k < j → n.methods[j]? = some z → RelationMethod.parse? z.name = some other →
            other.scope = rel.scope → rel.Spares y other z) := by
  obtain ⟨m, hm, h⟩ := exists_unresolved_of_mem hn
  obtain ⟨x, hx, rfl⟩ := h.exists_own hy hrel
  rw [Model.name_marked] at hrel
  rw [Model.Resolved.internal_isSome_iff ((fresh_unresolved r o).unmarked m hm x
    (List.mem_of_getElem? hx)), Option.isSome_iff_exists] at hmarked
  obtain ⟨a, ha⟩ := hmarked
  obtain ⟨hax, harel, -⟩ := Model.attachment?_eq_some_iff.1 ha
  obtain rfl : a.method = x := Option.some.inj (hax.symm.trans hx)
  obtain rfl : a.rel = rel := Option.some.inj (harel.symm.trans hrel)
  have hk : k < m.methods.length := (List.getElem?_eq_some_iff.1 hx).1
  obtain ⟨d, hd⟩ := Model.slotAt_of_mem_attachments (Nat.le_refl _)
    (Model.mem_attachments.2 ⟨k, hk, ha⟩)
  obtain ⟨-, -, -, hops⟩ := Model.slotAt_resolved (Nat.le_refl _) hd
  obtain ⟨e, he, hiff⟩ := Model.exists_entry (distinct_unresolved hnames hm) ha hk
  refine ⟨⟨a.target.name, d⟩, e, ?_, ?_, ?_⟩
  · rw [Model.scope?, h.slot, hd]
    rfl
  · rw [← he]
    exact congrArg (Dictionary.find? · a.rel.apiName) hops
  · rw [Model.reverses_marked, h.declaredName, hiff]
    apply and_congr_right'
    -- the later methods of the relation that are described are just those that are attached
    constructor
    · intro hspared j z other hkj hz hother hs
      obtain ⟨z, hown, rfl⟩ := h.exists_own hz hother
      rw [Model.name_marked] at hother
      have hj : j < m.methods.length := (List.getElem?_eq_some_iff.1 hown).1
      rw [Model.spares_marked]
      exact hspared j _ hkj hj (Model.attachment?_of_le ha (Nat.le_of_lt hkj) hown hother hs) hs
    · intro hall j b hkj hj hb hs
      obtain ⟨hz, hother, -⟩ := Model.attachment?_eq_some_iff.1 hb
      have hspares := hall j _ b.rel hkj (h.resolved.getElem?_methods hz)
      rw [Model.name_marked, Model.spares_marked] at hspares
      exact hspares hother hs

/-- Logs of what was created, with parts.  No operation on the parts creates any. -/
def createlogs : Registry where
  remotingVersion := 3
  classes := [
    { name := "createlog"
      ctor := some ⟨none⟩
      description := none
      httpPath := none
      prototypeChain := []
      relations := [("parts", ⟨some "createlog", none⟩)]
      exposedMethods := none
      methods := [.served "prototype.__get__parts" "/createlogs/:id/parts"]
      properties := [] }]

theorem entry_reverses_iff_createlogs :
    ∃ n ∈ createlogs.describe .default, ∃ y, n.methods[0]? = some y ∧
      y.name = "prototype.__get__parts" ∧ y.internal.isSome = true ∧
        ∃ s e, n.scope? "parts" = some s ∧ s.methods.find? "parts" = some e ∧
          ¬ e.Reverses "::get::createlog::parts" y := by
  have hn := List.getElem?_eq_getElem (l := createlogs.describe .default) (i := 0) (by decide)
  have hy := List.getElem?_eq_getElem (l := (createlogs.describe .default)[0].methods) (i := 0)
    (by decide)
  refine ⟨_, List.mem_of_getElem? hn, _, hy, by decide, by decide, ?_⟩
  have hrel : RelationMethod.parse? (createlogs.describe .default)[0].methods[0].name =
      some ⟨"get", "parts"⟩ := by decide
  obtain ⟨s, e, hs, he, hiff⟩ :=
    entry_reverses_iff (by decide) (List.mem_of_getElem? hn) hy hrel (by decide)
  refine ⟨s, e, hs, he, ?_⟩
  intro hreverses
  exact (hiff.1 hreverses).1 ⟨by decide, by decide, by decide⟩

end Registry

end AngularClient
