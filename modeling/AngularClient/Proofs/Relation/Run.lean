import AngularClient.Proofs.Lists
import AngularClient.Proofs.Relation.Effect

namespace AngularClient

namespace RelationMethod

theorem parse?_of_mem_reverses {rel : RelationMethod} {m : Model} {x y : Method}
    (h : y ∈ rel.reverses m x) : parse? y.name = none := by
  have hr : (rel.reverseName m.declaredName).toList.head? = some ':' := rel.head?_reverseName _
  have hne : (some ':' : Option Char) ≠ some 'p' := by decide
  apply parse?_eq_none_of_head
  simp only [reverses] at h
  split at h
  · rcases List.mem_cons.1 h with rfl | h
    · exact hr ▸ hne
    · rw [List.mem_singleton] at h
      subst h
      exact head?_toCreateMany hr ▸ hne
  · rw [List.mem_singleton] at h
    subst h
    exact hr ▸ hne

theorem reverses_congr {rel : RelationMethod} {m n : Model} (h : n.frame = m.frame) (x : Method) :
    rel.reverses n x = rel.reverses m x := by
  simp only [reverses, Model.name_eq h, Model.declaredName_eq h]

theorem record_congr {rel : RelationMethod} {m n : Model} (h : n.frame = m.frame) (x : Method)
    (d : Dictionary Method) : rel.record n x d = rel.record m x d := by
  simp only [record, Model.declaredName_eq h]

end RelationMethod

namespace Model

variable (r : Registry) (o : Options) (base : ModelSet)

def slotAt (m : Model) (k : Nat) (relation : String) : Option Slot :=
  m.slotAfter r o base relation (m.relationMethods r relation (m.methods.take k))

def marked (m : Model) (k : Nat) (x : Method) : Method :=
  match m.attachment? r o base k with
  | some a => x.withInternal (some (a.rel.note m.name))
  | none => x

def ownMethods (m : Model) (k : Nat) : List Method :=
  m.methods.mapIdx fun k' x => if k' < k then m.marked r o base k' x else x

def reversesAt (m : Model) (name : String) (k : Nat) : List Method :=
  match m.attachment? r o base k with
  | some a => if a.target.name = name then a.rel.reverses m a.method else []
  | none => []

def sent (m : Model) (k : Nat) (name : String) : List Method :=
  (List.range k).flatMap (m.reversesAt r o base name)

/-- What resolving its first `k` methods makes of a model which receives some reverse methods. -/
structure Resolved (m : Model) (k : Nat) (received : List Method) (n : Model) : Prop where
  frame : n.frame = m.frame
  methods : n.methods = m.ownMethods r o base k ++ received
  slots : ∀ relation, n.scopes.find? relation = m.slotAt r o base k relation
  sorted : n.scopes.Sorted

variable {r o base} {m n target : Model} {k : Nat} {x : Method} {rel : RelationMethod} {c : String}

@[simp] theorem ownMethods_zero : m.ownMethods r o base 0 = m.methods := by
  apply List.ext_getElem?
  simp [ownMethods]

@[simp] theorem length_ownMethods : (m.ownMethods r o base k).length = m.methods.length := by
  simp [ownMethods]

@[grind =] theorem getElem?_ownMethods (j : Nat) :
    (m.ownMethods r o base k)[j]? =
      m.methods[j]?.map fun x => if j < k then m.marked r o base j x else x := by
  simp [ownMethods]

theorem ownMethods_succ_of_none (h : m.attachment? r o base k = none) :
    m.ownMethods r o base (k + 1) = m.ownMethods r o base k := by
  apply List.ext_getElem?
  intro j
  by_cases hj : j = k
  · subst hj
    grind [marked]
  · grind

theorem ownMethods_succ {a : Attachment} (h : m.attachment? r o base k = some a) :
    m.ownMethods r o base (k + 1) =
      (m.ownMethods r o base k).modify k (·.withInternal (some (a.rel.note m.name))) := by
  apply List.ext_getElem?
  intro j
  rw [List.getElem?_modify]
  by_cases hj : k = j
  · subst hj
    grind [marked]
  · grind

theorem target_of_slotAfter {methods : List Method} {relation : String} {s : Scope}
    (hd : m.destination? r o base relation = some target)
    (h : m.slotAfter r o base relation methods = some (.resolved s)) : s.target = target.name := by
  simp only [slotAfter, hd] at h
  split at h
  · cases h
  · obtain rfl := Slot.resolved.inj (Option.some.inj h)
    rfl

theorem attachment?_exposed (hx : m.methods[k]? = some x)
    (hrel : RelationMethod.parse? x.name = some rel) (hc : m.targetClass? r rel.scope = some c)
    (ha : m.attachment? r o base k = some ⟨rel, x, target⟩) :
    (m.relationMethods r rel.scope (m.methods.take k) ++ [x]).any (target.exposes r) = true := by
  rw [attachment?_eq hx hrel hc, relationMethods_take_succ hx hrel hc] at ha
  cases hd : m.destination? r o base rel.scope with
  | none => simp [hd] at ha
  | some target' =>
    rw [hd, Option.bind_some] at ha
    split at ha
    · next he =>
      cases ha
      exact he
    · cases ha

@[simp] theorem slotAt_zero (relation : String) : m.slotAt r o base 0 relation = none := by
  have hk : m.relationMethods r relation [] = [] := by simp [relationMethods]
  rw [slotAt, List.take_zero, hk]
  cases hd : m.destination? r o base relation with
  | none => simp [slotAfter, hd]
  | some target => exact slotAfter_of_not_exposed hd rfl

theorem slotAt_succ (hx : m.methods[k]? = some x) (hrel : RelationMethod.parse? x.name = some rel)
    (hc : m.targetClass? r rel.scope = some c) (relation : String) :
    m.slotAt r o base (k + 1) relation =
      if relation = rel.scope then
        m.slotAfter r o base rel.scope
          (m.relationMethods r rel.scope (m.methods.take k) ++ [x])
      else m.slotAt r o base k relation := by
  by_cases h : relation = rel.scope
  · subst h
    rw [if_pos rfl, slotAt, relationMethods_take_succ hx hrel hc]
  · rw [if_neg h, slotAt, slotAt, relationMethods_take_succ_of_ne hx]
    intro rel' hrel'
    obtain rfl := Option.some.inj (hrel.symm.trans hrel')
    exact Ne.symm h

theorem slotAt_succ_of_no_destination (hx : m.methods[k]? = some x)
    (hrel : RelationMethod.parse? x.name = some rel) (hc : m.targetClass? r rel.scope = some c)
    (hd : m.destination? r o base rel.scope = none)
    (hseen : (m.relationMethods r rel.scope (m.methods.take k)).isEmpty = false)
    (relation : String) :
    m.slotAt r o base (k + 1) relation = m.slotAt r o base k relation := by
  rw [slotAt_succ hx hrel hc, slotAfter_of_no_destination x hd]
  split
  · next heq => subst heq; simp [slotAt, slotAfter, hd, hseen]
  · rfl

theorem slotAt_succ_of_not_exposed (hx : m.methods[k]? = some x)
    (hrel : RelationMethod.parse? x.name = some rel) (hc : m.targetClass? r rel.scope = some c)
    (hd : m.destination? r o base rel.scope = some target)
    (he : (m.relationMethods r rel.scope (m.methods.take k) ++ [x]).any (target.exposes r) = false)
    (relation : String) :
    m.slotAt r o base (k + 1) relation = m.slotAt r o base k relation := by
  rw [slotAt_succ hx hrel hc, slotAfter_of_not_exposed hd he]
  split
  · next heq =>
    subst heq
    rw [List.any_append, Bool.or_eq_false_iff] at he
    exact (slotAfter_of_not_exposed hd he.1).symm
  · rfl

theorem slotAt_succ_of_not_relation (hx : m.methods[k]? = some x)
    (h : ∀ rel, RelationMethod.parse? x.name = some rel → m.targetClass? r rel.scope = none)
    (relation : String) :
    m.slotAt r o base (k + 1) relation = m.slotAt r o base k relation := by
  have hk : m.relationMethods r relation [x] = [] := by
    cases hc : m.targetClass? r relation with
    | none => simp [relationMethods, hc]
    | some c =>
      apply relationMethods_singleton_of_ne
      intro rel hrel hs
      have := h rel hrel
      rw [hs, hc] at this
      cases this
  rw [slotAt, slotAt, List.take_add_one, hx, Option.toList_some, relationMethods_append, hk,
    List.append_nil]

namespace Resolved

variable {received : List Method}

theorem start (h : m.scopes = []) : m.Resolved r o base 0 [] m where
  frame := rfl
  methods := by simp
  slots := by
    intro relation
    rw [slotAt_zero, h]
    rfl
  sorted := by simp [h, Dictionary.Sorted, Dictionary.keys]

theorem pass (h : m.Resolved r o base k received n) (ha : m.attachment? r o base k = none)
    (hs : ∀ relation, m.slotAt r o base (k + 1) relation = m.slotAt r o base k relation) :
    m.Resolved r o base (k + 1) received n where
  frame := h.frame
  methods := by rw [ownMethods_succ_of_none ha, h.methods]
  slots := by
    intro relation
    rw [hs, h.slots]
  sorted := h.sorted

theorem skip (h : m.Resolved r o base k received n) (hx : m.methods[k]? = some x)
    (hrel : RelationMethod.parse? x.name = some rel) (hc : m.targetClass? r rel.scope = some c)
    (hd : m.destination? r o base rel.scope = none) :
    m.Resolved r o base (k + 1) received
      { n with scopes := n.scopes.insert rel.scope .skipped } where
  frame := h.frame
  methods := by
    have ha : m.attachment? r o base k = none := by rw [attachment?_eq hx hrel hc, hd]; rfl
    rw [ownMethods_succ_of_none ha, ← h.methods]
  slots := by
    intro relation
    rw [slotAt_succ hx hrel hc, slotAfter_of_no_destination x hd, Dictionary.find?_insert, h.slots]
  sorted := h.sorted.insert _ _

theorem attach (h : m.Resolved r o base k received n) (hx : m.methods[k]? = some x)
    (hrel : RelationMethod.parse? x.name = some rel) (hc : m.targetClass? r rel.scope = some c)
    (hd : m.destination? r o base rel.scope = some target)
    (ha : m.attachment? r o base k = some ⟨rel, x, target⟩) :
    m.Resolved r o base (k + 1) received (rel.attachTo target.name k x n) where
  frame := h.frame
  methods := by
    have hk : k < (m.ownMethods r o base k).length := by
      rw [length_ownMethods]
      exact (List.getElem?_eq_some_iff.1 hx).1
    rw [ownMethods_succ ha, ← modify_append hk, ← h.methods]
    simp only [RelationMethod.attachTo, name_eq h.frame]
  slots := by
    intro relation
    have he := attachment?_exposed hx hrel hc ha
    rw [slotAt_succ hx hrel hc, slotAfter_of_exposed hd hrel he, ← slotAt]
    simp only [RelationMethod.attachTo, Dictionary.find?_insert, scope?, h.slots,
      RelationMethod.record_congr h.frame]
    split
    · cases hslot : m.slotAt r o base k rel.scope with
      | none => rfl
      | some slot =>
        cases slot with
        | skipped => rfl
        | resolved s => simp [Slot.scope?, target_of_slotAfter hd hslot]
    · rfl
  sorted := h.sorted.insert _ _

theorem receive (h : m.Resolved r o base k received n) (more : List Method) :
    m.Resolved r o base k (received ++ more) { n with methods := n.methods ++ more } where
  frame := h.frame
  methods := by rw [h.methods, List.append_assoc]
  slots := h.slots
  sorted := h.sorted

end Resolved

end Model

end AngularClient
