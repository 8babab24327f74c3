import AngularClient.Proofs.Relation.Latch

namespace AngularClient

def Model.frame (m : Model) : Model := { m with methods := [], scopes := [] }

namespace Model

@[simp] theorem name_frame (m : Model) : m.frame.name = m.name := rfl

@[simp] theorem declaredName_frame (m : Model) : m.frame.declaredName = m.declaredName := rfl

@[simp] theorem schema_frame (m : Model) : m.frame.schema = m.schema := rfl

theorem schema_eq {m n : Model} (h : n.frame = m.frame) : n.schema = m.schema := by
  rw [← schema_frame, h, schema_frame]

theorem name_eq {m n : Model} (h : n.frame = m.frame) : n.name = m.name := by
  rw [← name_frame, h, name_frame]

theorem declaredName_eq {m n : Model} (h : n.frame = m.frame) : n.declaredName = m.declaredName := by
  rw [← declaredName_frame, h, declaredName_frame]

end Model

namespace ModelSet

theorem names_eq {set base : ModelSet} (h : set.map Model.frame = base.map Model.frame) :
    set.names = base.names := by
  have hn := congrArg (List.map Model.name) h
  simpa [names, Function.comp_def] using hn

theorem findIdx?_eq {set base : ModelSet} (h : set.map Model.frame = base.map Model.frame)
    (p : String → Bool) : set.findIdx? (fun m => p m.name) = base.findIdx? (fun m => p m.name) := by
  have hn := congrArg (List.findIdx? p) (names_eq h)
  simpa [names, Function.comp_def] using hn

@[simp] theorem position?_name {set : ModelSet} {t : Nat} {target : Model} (hd : set.names.Nodup)
    (h : set[t]? = some target) : set.position? target.name = some t := by
  obtain ⟨ht, rfl⟩ := List.getElem?_eq_some_iff.1 h
  rw [position?, List.findIdx?_eq_some_iff_getElem]
  refine ⟨ht, by simp, ?_⟩
  intro j hj heq
  have hjl : j < set.names.length := by simp [names]; omega
  have htl : t < set.names.length := by simpa [names] using ht
  have hn : set.names[j] = set.names[t] := by simpa [names] using heq
  have := hd.getElem_inj_iff.1 hn
  omega

theorem find?_eq_some_iff_position {set : ModelSet} {name : String} {target : Model} :
    (set.find? fun t => Text.lower t.name == Text.lower name) = some target ↔
      ∃ t, set.positionIgnoringCase? name = some t ∧ set[t]? = some target := by
  rw [List.find?_eq_bind_findIdx?_getElem?, Option.bind_eq_some_iff]
  rfl

theorem positionIgnoringCase?_eq_none_iff {set : ModelSet} {name : String} :
    set.positionIgnoringCase? name = none ↔
      (set.find? fun t => Text.lower t.name == Text.lower name) = none := by
  rw [positionIgnoringCase?, List.findIdx?_eq_none_iff, List.find?_eq_none]
  simp

end ModelSet

def Model.Admits (m : Model) (relation target : String) : Prop :=
  m.scopes.find? relation = none ∨
    ∃ s, m.scopes.find? relation = some (.resolved s) ∧ s.target = target

namespace Model

variable {r : Registry} {o : Options} {base : ModelSet} {m target : Model} {k : Nat}

theorem relationMethods_take_succ {x : Method} {rel : RelationMethod} {c : String}
    (hx : m.methods[k]? = some x) (hrel : RelationMethod.parse? x.name = some rel)
    (hc : m.targetClass? r rel.scope = some c) :
    m.relationMethods r rel.scope (m.methods.take (k + 1)) =
      m.relationMethods r rel.scope (m.methods.take k) ++ [x] := by
  rw [List.take_add_one, hx, Option.toList_some, relationMethods_append,
    relationMethods_singleton hrel hc]

theorem relationMethods_take_succ_of_ne {x : Method} {relation : String}
    (hx : m.methods[k]? = some x)
    (h : ∀ rel, RelationMethod.parse? x.name = some rel → rel.scope ≠ relation) :
    m.relationMethods r relation (m.methods.take (k + 1)) =
      m.relationMethods r relation (m.methods.take k) := by
  rw [List.take_add_one, hx, Option.toList_some, relationMethods_append,
    relationMethods_singleton_of_ne h, List.append_nil]

theorem attachment?_eq {x : Method} {rel : RelationMethod} {c : String}
    (hx : m.methods[k]? = some x) (hrel : RelationMethod.parse? x.name = some rel)
    (hc : m.targetClass? r rel.scope = some c) :
    m.attachment? r o base k = (m.destination? r o base rel.scope).bind fun target =>
      if (m.relationMethods r rel.scope (m.methods.take (k + 1))).any (target.exposes r) then
        some ⟨rel, x, target⟩
      else none := by
  cases hd : m.destination? r o base rel.scope with
  | none => simp [attachment?, hx, hrel, hd]
  | some target =>
    simp only [attachment?, hx, hrel, hd, relationMethods, hc, Option.isSome_some, if_true,
      List.any_filter, Option.bind_eq_bind, Option.bind_some]

theorem attachment?_eq_none {x : Method} (hx : m.methods[k]? = some x)
    (h : ∀ rel, RelationMethod.parse? x.name = some rel → m.targetClass? r rel.scope = none) :
    m.attachment? r o base k = none := by
  cases hrel : RelationMethod.parse? x.name with
  | none => simp [attachment?, hx, hrel]
  | some rel => simp [attachment?, hx, hrel, destination?, h rel hrel]

end Model

namespace RelationMethod

variable {r : Registry} {o : Options} {set base : ModelSet} {m n target : Model} {x : Method}
  {rel : RelationMethod} {c : String} {seen : List Method}

theorem effect_of_no_destination (hf : set.map Model.frame = base.map Model.frame)
    (hc : m.targetClass? r rel.scope = some c)
    (hslot : n.scopes.find? rel.scope = m.slotAfter r o base rel.scope seen)
    (hd : m.destination? r o base rel.scope = none) :
    rel.effect r o set n x c = if seen.isEmpty then .skip else .pass := by
  have hp : set.positionIgnoringCase? (o.displayName c) = none := by
    rw [ModelSet.positionIgnoringCase?, ModelSet.findIdx?_eq hf (fun name =>
      Text.lower name == Text.lower (o.displayName c))]
    apply ModelSet.positionIgnoringCase?_eq_none_iff.2
    simpa [Model.destination?, hc] using hd
  unfold effect
  rw [hslot]
  cases seen with
  | nil => simp [Model.slotAfter, hd, hp]
  | cons y seen => simp [Model.slotAfter, hd]

theorem exists_index (hf : set.map Model.frame = base.map Model.frame)
    (hc : m.targetClass? r rel.scope = some c)
    (hd : m.destination? r o base rel.scope = some target) :
    ∃ t, base[t]? = some target ∧ set.positionIgnoringCase? (o.displayName c) = some t ∧
      ∃ target', set[t]? = some target' ∧ target'.frame = target.frame := by
  simp only [Model.destination?, hc, Option.bind_some] at hd
  obtain ⟨t, hp, ht⟩ := ModelSet.find?_eq_some_iff_position.1 hd
  refine ⟨t, ht, ?_, ?_⟩
  · rw [ModelSet.positionIgnoringCase?, ModelSet.findIdx?_eq hf (fun name =>
      Text.lower name == Text.lower (o.displayName c))]
    exact hp
  · have hs := congrArg (·[t]?) hf
    simp only [List.getElem?_map, ht, Option.map_some, Option.map_eq_some_iff] at hs
    exact hs

theorem effect_of_not_exposed (hf : set.map Model.frame = base.map Model.frame)
    (hc : m.targetClass? r rel.scope = some c)
    (hslot : n.scopes.find? rel.scope = m.slotAfter r o base rel.scope seen)
    (hd : m.destination? r o base rel.scope = some target)
    (he : (seen ++ [x]).any (target.exposes r) = false) :
    rel.effect r o set n x c = .pass := by
  rw [List.any_append, Bool.or_eq_false_iff] at he
  obtain ⟨t, -, hp, target', ht, hframe⟩ := exists_index hf hc hd
  have hx : excludedBy r target' x.name = true := by
    rw [Model.excludedBy_eq, Model.exposes_congr (Model.declaredName_eq hframe)]
    simpa using he.2
  unfold effect
  rw [hslot, Model.slotAfter_of_not_exposed hd he.1]
  simp [hp, ht, hx]

theorem effect_of_exposed (hdistinct : base.names.Nodup)
    (hf : set.map Model.frame = base.map Model.frame)
    (hc : m.targetClass? r rel.scope = some c)
    (hslot : n.scopes.find? rel.scope = m.slotAfter r o base rel.scope seen)
    (hd : m.destination? r o base rel.scope = some target)
    (he : (seen ++ [x]).any (target.exposes r) = true) :
    ∃ t, base[t]? = some target ∧ rel.effect r o set n x c = .attach t := by
  obtain ⟨t, htb, hp, target', ht, hframe⟩ := exists_index hf hc hd
  refine ⟨t, htb, ?_⟩
  unfold effect
  rw [hslot]
  -- with the slot taken the target is found by name, else by the relation and then checked
  cases hs : seen.any (target.exposes r) with
  | true =>
    have hname : set.position? target.name = some t := by
      rw [ModelSet.position?, ModelSet.findIdx?_eq hf (· == target.name)]
      exact ModelSet.position?_name hdistinct htb
    simp [Model.slotAfter, hd, Model.latched_isEmpty, hs, hname]
  | false =>
    have hx : target.exposes r x = true := by simpa [hs] using he
    have hx' : excludedBy r target' x.name = false := by
      rw [Model.excludedBy_eq, Model.exposes_congr (Model.declaredName_eq hframe), hx]
      rfl
    simp [Model.slotAfter_of_not_exposed hd hs, hp, ht, hx']

theorem find?_of_effect_skip (h : rel.effect r o set n x c = .skip) :
    n.scopes.find? rel.scope = none := by
  unfold effect at h
  split at h
  · cases h
  · split at h <;> cases h
  · assumption

theorem admits_of_effect_attach {t : Nat} (h : rel.effect r o set n x c = .attach t)
    (ht : set[t]? = some target) : n.Admits rel.scope target.name := by
  unfold effect at h
  split at h
  · cases h
  · next s hslot =>
    split at h
    · next t' hposition =>
      obtain rfl := Effect.attach.inj h
      obtain ⟨hlt, hname, -⟩ := List.findIdx?_eq_some_iff_getElem.1 hposition
      obtain ⟨-, rfl⟩ := List.getElem?_eq_some_iff.1 ht
      exact .inr ⟨s, hslot, (eq_of_beq hname).symm⟩
    · cases h
  · exact .inl ‹_›

end RelationMethod

end AngularClient
