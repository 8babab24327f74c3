import AngularClient.Proofs.Model.Redeclared
import Mathlib.Data.List.Perm.Basic

namespace AngularClient

/-- Two models that are alike except that their methods, from an index on, may come in another
order. -/
structure Model.AlikeUpTo (own : Nat) (m n : Model) : Prop where
  frame : n.frame = m.frame
  scopes : n.scopes = m.scopes
  own_le : own ≤ m.methods.length
  kept : n.methods.take own = m.methods.take own
  others : (m.methods.drop own).Perm (n.methods.drop own)

/-- Registries that list the same classes, of which no two have the same display name up to case. -/
structure Registry.Permuted (o : Options) (r s : Registry) : Prop where
  classes : r.classes.Perm s.classes
  distinct : (r.classes.map fun c => Text.lower (o.displayName c.name)).Nodup

namespace Registry

variable {r s : Registry} {o : Options} {m n n' : Model}

theorem schema_unresolved (hm : m ∈ r.unresolved o) : m.schema = none := by
  obtain ⟨m', hm', rfl⟩ := List.mem_map.1 hm
  obtain ⟨c, -, -, -, rfl⟩ := Collection.exists_class_of_mem hm'
  rfl

theorem schema_resolved (hn : n ∈ r.resolved o) : n.schema = none := by
  have hframe : n.frame ∈ (r.unresolved o).map Model.frame := by
    rw [← ModelSet.map_frame_resolveScopes r o]
    exact List.mem_map_of_mem hn
  obtain ⟨m, hm, h⟩ := List.mem_map.1 hframe
  rw [Model.schema_eq h.symm, schema_unresolved hm]

theorem schema_describe (hn : n ∈ r.describe o) : n.schema =
    if o.includeSchema then
      some (.ofDefinitions n.name ((r.definition? n.declaredName).getD []))
    else none := by
  rw [describe] at hn
  split at hn
  · next hs =>
    obtain ⟨m, -, rfl⟩ := List.mem_map.1 hn
    rw [if_pos hs]
    rfl
  · next hs => rw [if_neg hs, schema_resolved hn]

theorem forall₂_becomes (r : Registry) (o : Options) :
    List.Forall₂ (fun m n => m.Becomes r o n ∧ n ∈ r.describe o) (r.unresolved o)
      (r.describe o) := by
  rw [List.forall₂_iff_get]
  refine ⟨(length_describe r o).symm, ?_⟩
  intro i hi hi'
  obtain ⟨n, hn, h⟩ := exists_described (List.getElem?_eq_getElem hi)
  rw [List.getElem?_eq_getElem hi', Option.some.injEq] at hn
  rw [List.get_eq_getElem, List.get_eq_getElem, hn]
  exact ⟨h, hn ▸ List.getElem_mem hi'⟩

theorem frame_eq_of_becomes (hn : m.Becomes r o n) (hn' : m.Becomes s o n')
    (hschema : n'.schema = n.schema) : n'.frame = n.frame := by
  have hframe : ({ n' with schema := m.schema } : Model).frame =
      ({ n with schema := m.schema } : Model).frame :=
    hn'.resolved.frame.trans hn.resolved.frame.symm
  have hframes := congrArg (fun f : Model => { f with schema := n.schema }) hframe
  simp only [Model.frame] at hframes ⊢
  rw [hschema]
  exact hframes

namespace Permuted

variable (h : r.Permuted o s)
include h

theorem nodup_displayNames : (r.classes.map fun c => o.displayName c.name).Nodup := by
  refine List.Nodup.of_map Text.lower ?_
  rw [List.map_map]
  exact h.distinct

theorem class? (name : String) : s.class? name = r.class? name := by
  have hnames : (r.classes.map (·.name)).Nodup := by
    refine List.Nodup.of_map (fun name => o.displayName name) ?_
    rw [List.map_map]
    exact h.nodup_displayNames
  exact find?_perm hnames h.classes name

theorem collect : (r.collect o).models.Perm (s.collect o).models := by
  have hnames : (s.classes.map fun c => o.displayName c.name).Nodup :=
    (h.classes.map _).nodup_iff.1 h.nodup_displayNames
  rw [Registry.collect, Registry.collect, Collection.models_ofClasses_filter h.nodup_displayNames,
    Collection.models_ofClasses_filter hnames]
  exact (h.classes.filter _).map _

theorem unresolved : (r.unresolved o).Perm (s.unresolved o) := by
  have haugment : Model.augment s = Model.augment r := by
    funext m
    simp only [Model.augment, Registry.ctorAccepts, h.class?]
  rw [Registry.unresolved, Registry.unresolved, ModelSet.augment, ModelSet.augment, haugment]
  exact h.collect.map _

theorem distinct_unresolved : ((r.unresolved o).map fun m => Text.lower m.name).Nodup := by
  have hmap : (r.unresolved o).map (fun m => Text.lower m.name) =
      (r.classes.filter (·.retained o)).map fun c => Text.lower (o.displayName c.name) := by
    rw [Registry.unresolved, ModelSet.augment, Registry.collect,
      Collection.models_ofClasses_filter h.nodup_displayNames, List.map_map, List.map_map]
    rfl
  rw [hmap]
  exact h.distinct.sublist (List.filter_sublist.map _)

theorem targetClass? (m : Model) (relation : String) :
    m.targetClass? s relation = m.targetClass? r relation := by
  rw [Model.targetClass?, Model.targetClass?, h.class?]

theorem exposes (m : Model) (x : Method) : m.exposes s x = m.exposes r x := by
  rw [Model.exposes, Model.exposes, h.class?]

theorem destination? (m : Model) (relation : String) :
    m.destination? s o (s.unresolved o) relation =
      m.destination? r o (r.unresolved o) relation := by
  rw [Model.destination?, Model.destination?, h.targetClass?]
  congr 1
  funext c
  exact find?_perm h.distinct_unresolved h.unresolved (Text.lower (o.displayName c))

theorem attachment? (m : Model) (k : Nat) :
    m.attachment? s o (s.unresolved o) k = m.attachment? r o (r.unresolved o) k := by
  simp only [Model.attachment?, h.destination?, h.exposes]

theorem relationMethods (m : Model) (relation : String) (methods : List Method) :
    m.relationMethods s relation methods = m.relationMethods r relation methods := by
  rw [Model.relationMethods, Model.relationMethods, h.targetClass?]

theorem latched (target : Model) (methods : List Method) :
    Model.latched s target methods = Model.latched r target methods := by
  simp only [Model.latched, h.exposes]

theorem slotAt (m : Model) (k : Nat) (relation : String) :
    m.slotAt s o (s.unresolved o) k relation = m.slotAt r o (r.unresolved o) k relation := by
  rw [Model.slotAt, Model.slotAt, h.relationMethods, Model.slotAfter, Model.slotAfter,
    h.destination?]
  split
  · rfl
  · rw [h.latched]

theorem ownMethods (m : Model) (k : Nat) :
    m.ownMethods s o (s.unresolved o) k = m.ownMethods r o (r.unresolved o) k := by
  simp only [Model.ownMethods, Model.marked, h.attachment?]

theorem reversesFor (name : String) :
    ((r.unresolved o).reversesFor r o name).Perm ((s.unresolved o).reversesFor s o name) := by
  have hsent : ∀ m : Model, m.sent s o (s.unresolved o) m.methods.length name =
      m.sent r o (r.unresolved o) m.methods.length name := by
    intro m
    have hat : m.reversesAt s o (s.unresolved o) name = m.reversesAt r o (r.unresolved o) name := by
      funext k
      rw [Model.reversesAt, Model.reversesAt, h.attachment?]
    rw [Model.sent, Model.sent, hat]
  simp only [ModelSet.reversesFor, hsent]
  exact h.unresolved.flatMap_right _

theorem alikeUpTo (hn : m.Becomes r o n) (hmem : n ∈ r.describe o) (hn' : m.Becomes s o n')
    (hmem' : n' ∈ s.describe o) : n.AlikeUpTo m.methods.length n' where
  frame := by
    apply frame_eq_of_becomes hn hn'
    rw [schema_describe hmem, schema_describe hmem', hn.name, hn'.name, hn.declaredName,
      hn'.declaredName, Registry.definition?, Registry.definition?, h.class?]
  scopes := by
    apply hn'.sorted.ext hn.sorted
    intro relation
    rw [hn'.slot, hn.slot, h.slotAt]
  own_le := by
    rw [hn.methods, List.length_append, Model.length_ownMethods]
    exact Nat.le_add_right _ _
  kept := by
    rw [hn'.methods, hn.methods, h.ownMethods]
    rw [List.take_left' Model.length_ownMethods, List.take_left' Model.length_ownMethods]
  others := by
    rw [hn'.methods, hn.methods]
    rw [List.drop_left' Model.length_ownMethods, List.drop_left' Model.length_ownMethods]
    exact h.reversesFor m.name

end Permuted

/-- Listing the classes in another order describes the same models in another order.  Each has the
same fields, slots and own methods; behind these it has the same reverse methods in another order.
-/
theorem described_in_any_order (r : Registry) (o : Options) {classes : List ModelClass}
    (hclasses : r.classes.Perm classes)
    (hdistinct : (r.classes.map fun c => Text.lower (o.displayName c.name)).Nodup) :
    ∃ set : ModelSet, set.Perm (({ r with classes := classes } : Registry).describe o) ∧
      set.length = (r.describe o).length ∧
        ∀ (i : Nat) (m n n' : Model), (r.unresolved o)[i]? = some m → (r.describe o)[i]? = some n →
          set[i]? = some n' → n.AlikeUpTo m.methods.length n' := by
  have h : r.Permuted o { r with classes := classes } := ⟨hclasses, hdistinct⟩
  obtain ⟨set, hset, hperm⟩ := List.perm_comp_forall₂ h.unresolved (forall₂_becomes _ o)
  refine ⟨set, hperm, ?_, ?_⟩
  · simp [← hset.length_eq]
  · intro i m n n' hm hn hn'
    obtain ⟨hi, rfl⟩ := List.getElem?_eq_some_iff.1 hm
    obtain ⟨hi', rfl⟩ := List.getElem?_eq_some_iff.1 hn'
    obtain ⟨_, hn₁, hbecomes⟩ := exists_described (List.getElem?_eq_getElem hi)
    obtain rfl := Option.some.inj (hn.symm.trans hn₁)
    obtain ⟨hbecomes', hmem⟩ := (List.forall₂_iff_get.1 hset).2 i hi hi'
    exact h.alikeUpTo hbecomes (List.mem_of_getElem? hn) hbecomes' hmem

/-- Books are reached both from their author and from the shelf that they stand on. -/
def library : Registry where
  remotingVersion := 3
  classes :=
    let holder (name : String) : ModelClass :=
      { name := name
        ctor := some ⟨none⟩
        description := none
        httpPath := none
        prototypeChain := []
        relations := [("books", ⟨some "book", none⟩)]
        exposedMethods := none
        methods := [.served "prototype.__get__books" ("/" ++ name ++ "s/:id/books")]
        properties := [] }
    [holder "author", { holder "book" with relations := [], methods := [] }, holder "shelf"]

/-- With the shelf listed first, the method that leads to books from a shelf comes first. -/
theorem described_in_any_order_library :
    library.classes.Perm library.classes.reverse ∧
      (library.classes.map fun c => Text.lower (Options.default.displayName c.name)).Nodup ∧
      ∃ m ∈ library.unresolved .default, ∃ n ∈ library.describe .default,
        ∃ n' ∈ ({ library with classes := library.classes.reverse } : Registry).describe .default,
          n.name = "Book" ∧ n.AlikeUpTo m.methods.length n' ∧
            n.methods.map (·.name) = ["::get::author::books", "::get::shelf::books"] ∧
            n'.methods.map (·.name) = ["::get::shelf::books", "::get::author::books"] := by
  have hclasses : library.classes.Perm library.classes.reverse := library.classes.reverse_perm.symm
  have hdistinct :
      (library.classes.map fun c => Text.lower (Options.default.displayName c.name)).Nodup := by
    decide
  obtain ⟨set, hperm, hlength, hall⟩ := described_in_any_order library .default hclasses hdistinct
  have hm := List.getElem?_eq_getElem (l := library.unresolved .default) (i := 1) (by decide)
  have hn := List.getElem?_eq_getElem (l := library.describe .default) (i := 1) (by decide)
  have hn' := List.getElem?_eq_getElem (l := set) (i := 1) (by rw [hlength]; decide)
  have halike := hall 1 _ _ _ hm hn hn'
  have hmem' := hperm.mem_iff.1 (List.mem_of_getElem? hn')
  have hbook : ∀ n' ∈ ({ library with classes := library.classes.reverse } : Registry).describe
      .default, n'.name = "Book" →
        n'.methods.map (·.name) = ["::get::shelf::books", "::get::author::books"] := by
    decide
  exact ⟨hclasses, hdistinct, _, List.mem_of_getElem? hm, _, List.mem_of_getElem? hn, _, hmem',
    by decide, halike, by decide, hbook _ hmem' ((Model.name_eq halike.frame).trans (by decide))⟩

end Registry

end AngularClient
