import AngularClient.Proofs.Model.Reordered
import AngularClient.Proofs.Relation.Reverses

namespace AngularClient

namespace Model

def opened (r : Registry) (m target : Model) (relation : String) (k : Nat) : Prop :=
  ∃ k' ≤ k, ∃ y, m.methods[k']? = some y ∧ y.worksOn relation = true ∧ target.exposes r y = true

def outcome? (m : Model) (relation : String) : Option (Option String) :=
  (m.scopes.find? relation).map fun slot => slot.scope?.map (·.target)

structure Latched (r : Registry) (o : Options) (m n : Model) (relation : String) : Prop where
  absent : n.outcome? relation = none ↔ m.relationMethods r relation m.methods = [] ∨
    ∃ target, n.destination? r o (r.describe o) relation = some target ∧
      ∀ x ∈ m.relationMethods r relation m.methods, target.exposes r x = false
  skipped : n.outcome? relation = some none ↔ m.relationMethods r relation m.methods ≠ [] ∧
    n.destination? r o (r.describe o) relation = none
  resolved : ∀ name, n.outcome? relation = some (some name) ↔
    ∃ target, n.destination? r o (r.describe o) relation = some target ∧ target.name = name ∧
      ∃ x ∈ m.relationMethods r relation m.methods, target.exposes r x = true
  marked : ∀ (k : Nat) (x y : Method), m.methods[k]? = some x → n.methods[k]? = some y →
    x ∈ m.relationMethods r relation m.methods →
      (y.internal.isSome = true ↔
        ∃ target, n.destination? r o (r.describe o) relation = some target ∧
          n.outcome? relation = some (some target.name) ∧ m.opened r target relation k)

def verdict (r : Registry) (target? : Option Model) (methods : List Method) :
    Option (Option String) :=
  match target? with
  | none => if methods.isEmpty then none else some none
  | some target => if methods.any (target.exposes r) then some (some target.name) else none

section Verdict

variable {r s : Registry} {target? other? : Option Model} {methods more : List Method}
  {name : String}

theorem exposes_of_key {m n : Model} (h : n.key = m.key) (x : Method) :
    n.exposes r x = m.exposes r x :=
  exposes_congr (congrArg Prod.snd h) x

theorem verdict_congr (h : other?.map key = target?.map key) :
    verdict r other? methods = verdict r target? methods := by
  cases target? with
  | none => rw [Option.map_none, Option.map_eq_none_iff] at h; rw [h]
  | some target =>
    obtain ⟨other, rfl, hk⟩ := Option.map_eq_some_iff.1 h
    have hn : other.name = target.name := congrArg Prod.fst hk
    have he : other.exposes r = target.exposes r := funext (exposes_of_key hk)
    simp only [verdict, he, hn]

theorem verdict_perm (h : methods.Perm more) :
    verdict r target? more = verdict r target? methods := by
  cases target? with
  | none => simp only [verdict, h.isEmpty_eq]
  | some target =>
    have ha : more.any (target.exposes r) = methods.any (target.exposes r) := by
      rw [Bool.eq_iff_iff, List.any_eq_true, List.any_eq_true]
      simp only [h.mem_iff]
    simp only [verdict, ha]

theorem verdict_eq_none_iff :
    verdict r target? methods = none ↔ methods = [] ∨ ∃ target, target? = some target ∧
      ∀ x ∈ methods, target.exposes r x = false := by
  cases target? with
  | none => simp [verdict]
  | some target =>
    simp only [verdict, Option.some.injEq, exists_eq_left']
    constructor
    · intro h
      right
      simpa using h
    · rintro (rfl | h)
      · rfl
      · simpa using h

theorem verdict_eq_skipped_iff :
    verdict r target? methods = some none ↔ methods ≠ [] ∧ target? = none := by
  cases target? with
  | none => simp [verdict]
  | some target => simp [verdict]

theorem verdict_eq_resolved_iff :
    verdict r target? methods = some (some name) ↔
      ∃ target, target? = some target ∧ target.name = name ∧
        ∃ x ∈ methods, target.exposes r x = true := by
  cases target? with
  | none => simp [verdict]
  | some target => simp [verdict, and_comm]

end Verdict

@[simp]
theorem mem_relationMethods {r : Registry} {m : Model} {relation : String} {methods : List Method}
    {x : Method} : x ∈ m.relationMethods r relation methods ↔
      (m.targetClass? r relation).isSome = true ∧ x ∈ methods ∧ x.worksOn relation = true := by
  unfold relationMethods
  split
  · next h => simp [h]
  · next h => simp [h]

theorem outcome?_slotAfter {r : Registry} {o : Options} {set : ModelSet} {m : Model}
    {relation : String} {methods : List Method} :
    (m.slotAfter r o set relation methods).map (fun slot => slot.scope?.map (·.target)) =
      verdict r (m.destination? r o set relation) methods := by
  cases hd : m.destination? r o set relation with
  | none =>
    simp only [slotAfter, verdict, hd]
    cases methods.isEmpty <;> rfl
  | some target =>
    simp only [slotAfter, verdict, hd, latched_isEmpty]
    cases methods.any (target.exposes r) <;> rfl

end Model

namespace ModelSet

variable {set base : ModelSet}

theorem map_find?_key (h : set.map Model.key = base.map Model.key) (p : String → Bool) :
    (set.find? fun m => p m.name).map Model.key = (base.find? fun m => p m.name).map Model.key := by
  have hf : ∀ set : ModelSet, (set.find? fun m => p m.name).map Model.key =
      (set.map Model.key).find? fun k => p k.1 := by
    intro set
    rw [List.find?_map]
    rfl
  rw [hf, hf, h]

end ModelSet

theorem Model.map_key_destination?_congr {r s : Registry} {o : Options} {set base : ModelSet}
    {m n : Model} {relation : String}
    (hclass : n.targetClass? s relation = m.targetClass? r relation)
    (hset : set.map Model.key = base.map Model.key) :
    (n.destination? s o set relation).map Model.key =
      (m.destination? r o base relation).map Model.key := by
  rw [Model.destination?, Model.destination?, hclass]
  cases m.targetClass? r relation with
  | none => rfl
  | some c =>
    exact ModelSet.map_find?_key hset fun name => Text.lower name == Text.lower (o.displayName c)

namespace Registry

variable {r s : Registry} {o : Options} {i : Nat} {m n : Model} {relation : String}

theorem map_key_destination? (h : m.Becomes r o n) :
    (n.destination? r o (r.describe o) relation).map Model.key =
      (m.destination? r o (r.unresolved o) relation).map Model.key := by
  exact Model.map_key_destination?_congr (Model.targetClass?_congr h.declaredName relation)
    (map_key_describe r o)

theorem outcome?_eq (h : m.Becomes r o n) (relation : String) :
    n.outcome? relation =
      Model.verdict r (n.destination? r o (r.describe o) relation)
        (m.relationMethods r relation m.methods) := by
  rw [Model.verdict_congr (map_key_destination? h), ← Model.outcome?_slotAfter, Model.outcome?,
    h.slot, Model.slotAt, List.take_length]

theorem attachment?_isSome_iff {k : Nat} {x : Method} (h : m.Becomes r o n)
    (hk : m.methods[k]? = some x) (hx : x ∈ m.relationMethods r relation m.methods) :
    (m.attachment? r o (r.unresolved o) k).isSome = true ↔
      ∃ target, n.destination? r o (r.describe o) relation = some target ∧
        n.outcome? relation = some (some target.name) ∧ m.opened r target relation k := by
  obtain ⟨hclass, -, hworks⟩ := Model.mem_relationMethods.1 hx
  obtain ⟨rel, hrel, rfl⟩ := Method.worksOn_iff.1 hworks
  have hkey : (n.destination? r o (r.describe o) rel.scope).map Model.key = _ :=
    map_key_destination? h
  constructor
  · intro ha
    obtain ⟨a, ha⟩ := Option.isSome_iff_exists.1 ha
    obtain ⟨hk', hrel', hd, k', hle, y, hy, hw, he⟩ := Model.attachment?_eq_some_iff.1 ha
    obtain rfl := Option.some.inj (hk.symm.trans hk')
    obtain rfl := Option.some.inj (hrel.symm.trans hrel')
    rw [hd] at hkey
    obtain ⟨target, ht, htkey⟩ := Option.map_eq_some_iff.1 hkey
    have he' : target.exposes r y = true := by rw [Model.exposes_of_key htkey, he]
    refine ⟨target, ht, ?_, k', hle, y, hy, hw, he'⟩
    rw [outcome?_eq h, Model.verdict_eq_resolved_iff]
    have hmem := Model.mem_relationMethods.2 ⟨hclass, List.mem_of_getElem? hy, hw⟩
    exact ⟨target, ht, rfl, y, hmem, he'⟩
  · rintro ⟨target, ht, -, k', hle, y, hy, hw, he⟩
    rw [ht] at hkey
    obtain ⟨target', hd, htkey⟩ := Option.map_eq_some_iff.1 hkey.symm
    rw [Option.isSome_iff_exists]
    refine ⟨⟨rel, x, target'⟩, Model.attachment?_eq_some_iff.2 ⟨hk, hrel, hd, k', hle, y, hy, hw, ?_⟩⟩
    rw [Model.exposes_of_key htkey, he]

theorem latched (h : m.Becomes r o n) (hunmarked : ∀ x ∈ m.methods, x.internal = none)
    (relation : String) : m.Latched r o n relation where
  absent := by rw [outcome?_eq h, Model.verdict_eq_none_iff]
  skipped := by rw [outcome?_eq h, Model.verdict_eq_skipped_iff]
  resolved := by
    intro name
    rw [outcome?_eq h, Model.verdict_eq_resolved_iff]
  marked := by
    intro k x y hx hy hmem
    have hy' := h.resolved.getElem?_methods hx
    obtain rfl := Option.some.inj (hy.symm.trans hy')
    rw [Model.Resolved.internal_isSome_iff (hunmarked x (List.mem_of_getElem? hx)),
      attachment?_isSome_iff h hx hmem]

theorem reverses_describe (h : m.Becomes r o n) :
    n.methods.drop m.methods.length = (r.unresolved o).reversesOfMarked (r.describe o) n.name := by
  rw [h.methods, h.name, List.drop_left' Model.length_ownMethods]
  symm
  apply flatMap_zip_eq (length_describe r o).symm
  intro i m n hm hn
  obtain ⟨n', hn', h⟩ := exists_described (o := o) hm
  obtain rfl := Option.some.inj (hn.symm.trans hn')
  exact h.resolved.sent_eq_of_marked
    ((fresh_unresolved r o).unmarked m (List.mem_of_getElem? hm)) _

namespace Reordered

variable (h : r.Reordered s)
include h

theorem verdict (target? : Option Model) (methods : List Method) :
    Model.verdict s target? methods = Model.verdict r target? methods := by
  cases target? with
  | none => rfl
  | some target =>
    have he : target.exposes s = target.exposes r := funext (h.exposes target)
    simp only [Model.verdict, he]

theorem targetClass?_eq {m m' : Model} (hm : m.Reordered m') (relation : String) :
    m'.targetClass? s relation = m.targetClass? r relation := by
  rw [h.targetClass?, Model.targetClass?_congr (Model.declaredName_eq hm.frame)]

theorem relationMethods {m m' : Model} (hm : m.Reordered m') (relation : String) :
    (m.relationMethods r relation m.methods).Perm
      (m'.relationMethods s relation m'.methods) := by
  unfold Model.relationMethods
  rw [h.targetClass?_eq hm]
  split
  · exact hm.methods.filter _
  · exact .refl _

theorem map_key_unresolved (o : Options) :
    (s.unresolved o).map Model.key = (r.unresolved o).map Model.key := by
  have hu := h.unresolved o
  generalize r.unresolved o = set, s.unresolved o = set' at hu
  induction hu with
  | nil => rfl
  | cons hm _ ih =>
    rw [List.map_cons, List.map_cons, ih, Model.key, Model.key, Model.name_eq hm.frame,
      Model.declaredName_eq hm.frame]

theorem map_key_destination? {m m' : Model} (hm : m.Reordered m') (relation : String) :
    (m'.destination? s o (s.unresolved o) relation).map Model.key =
      (m.destination? r o (r.unresolved o) relation).map Model.key :=
  Model.map_key_destination?_congr (h.targetClass?_eq hm relation) (h.map_key_unresolved o)

theorem outcome? {m m' n' : Model} (hm : m.Reordered m') (hn : m.Becomes r o n)
    (hn' : m'.Becomes s o n') (relation : String) : n'.outcome? relation = n.outcome? relation := by
  rw [outcome?_eq hn, outcome?_eq hn', h.verdict,
    Model.verdict_perm (h.relationMethods hm relation)]
  apply Model.verdict_congr
  rw [Registry.map_key_destination? hn, Registry.map_key_destination? hn',
    h.map_key_destination? hm]

end Reordered

/-- A slot is left open, skipped or resolved by the methods of its relation as a whole, and from the
first exposed one on they are marked and reversed; so in which order they come decides neither what
becomes of the slot nor its target. -/
theorem slots_latched (r : Registry) (o : Options) :
    (∀ (i : Nat) (m n : Model), (r.unresolved o)[i]? = some m → (r.describe o)[i]? = some n →
      (∀ relation, m.Latched r o n relation) ∧
        n.methods.drop m.methods.length =
          (r.unresolved o).reversesOfMarked (r.describe o) n.name) ∧
    ∀ s : Registry, r.Reordered s → ∀ (i : Nat) (n n' : Model), (r.describe o)[i]? = some n →
      (s.describe o)[i]? = some n' → ∀ relation, n'.outcome? relation = n.outcome? relation := by
  constructor
  · intro i m n hm hn
    obtain ⟨n', hn', h⟩ := exists_described (o := o) hm
    obtain rfl := Option.some.inj (hn.symm.trans hn')
    exact ⟨latched h ((fresh_unresolved r o).unmarked m (List.mem_of_getElem? hm)),
      reverses_describe h⟩
  · intro s h i n n' hn hn' relation
    obtain ⟨m, hm, hb⟩ := exists_unresolved hn
    obtain ⟨m', hm', hb'⟩ := exists_unresolved hn'
    obtain ⟨hi, rfl⟩ := List.getElem?_eq_some_iff.1 hm
    obtain ⟨hi', rfl⟩ := List.getElem?_eq_some_iff.1 hm'
    exact h.outcome? ((List.forall₂_iff_get.1 (h.unresolved o)).2 i hi hi') hb hb' relation

def backwards (r : Registry) : Registry :=
  { r with classes := r.classes.map fun c => { c with methods := c.methods.reverse } }

theorem reordered_backwards (r : Registry) : r.Reordered r.backwards := by
  unfold Reordered backwards
  rw [List.forall₂_map_right_iff, List.forall₂_same]
  intro c _
  exact ⟨rfl, c.methods.reverse_perm.symm⟩

theorem slots_latched_parts :
    ∃ m ∈ parts.unresolved .default, ∃ n ∈ parts.describe .default,
      m.Latched parts .default n "subparts" ∧ n.outcome? "subparts" = some (some "Shop.part") ∧
        ∃ n' ∈ parts.backwards.describe .default,
          n'.outcome? "subparts" = some (some "Shop.part") := by
  have hm := List.getElem?_eq_getElem (l := parts.unresolved .default) (i := 0) (by decide)
  have hn := List.getElem?_eq_getElem (l := parts.describe .default) (i := 0) (by decide)
  have hn' := List.getElem?_eq_getElem (l := parts.backwards.describe .default) (i := 0)
    (by decide)
  obtain ⟨hlatched, hreordered⟩ := slots_latched parts .default
  have hout : (parts.describe .default)[0].outcome? "subparts" = some (some "Shop.part") := by
    decide
  refine ⟨_, List.mem_of_getElem? hm, _, List.mem_of_getElem? hn, (hlatched 0 _ _ hm hn).1 _, hout,
    _, List.mem_of_getElem? hn', ?_⟩
  rw [hreordered _ (reordered_backwards parts) 0 _ _ hn hn', hout]

end Registry

end AngularClient
