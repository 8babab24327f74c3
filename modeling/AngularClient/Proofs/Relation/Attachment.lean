import AngularClient.Proofs.Dictionary
import AngularClient.Proofs.Relation.Resolution

namespace AngularClient

namespace Model

variable {r : Registry} {o : Options} {base : ModelSet} {m target : Model} {k : Nat}
  {relation : String} {a : Attachment}

def attachments (r : Registry) (o : Options) (base : ModelSet) (m : Model) (k : Nat) :
    List Attachment :=
  (List.range k).filterMap (m.attachment? r o base)

theorem attachment?_eq_some_iff :
    m.attachment? r o base k = some a ↔
      m.methods[k]? = some a.method ∧ RelationMethod.parse? a.method.name = some a.rel ∧
        m.destination? r o base a.rel.scope = some a.target ∧
          ∃ k' ≤ k, ∃ y, m.methods[k']? = some y ∧ y.worksOn a.rel.scope = true ∧
            a.target.exposes r y = true := by
  have hany : ∀ p : Method → Bool, (m.methods.take (k + 1)).any p = true ↔
      ∃ k' ≤ k, ∃ y, m.methods[k']? = some y ∧ p y = true := by
    intro p
    rw [List.any_eq_true]
    constructor
    · rintro ⟨y, hy, hp⟩
      obtain ⟨k', hk'⟩ := List.getElem?_of_mem hy
      rw [List.getElem?_take] at hk'
      split at hk'
      · next hlt => exact ⟨k', Nat.le_of_lt_succ hlt, y, hk', hp⟩
      · cases hk'
    · rintro ⟨k', hk', y, hy, hp⟩
      refine ⟨y, List.mem_of_getElem? (i := k') ?_, hp⟩
      rw [List.getElem?_take, if_pos (Nat.lt_succ_of_le hk')]
      exact hy
  unfold attachment?
  simp only [Option.bind_eq_bind, Option.bind_eq_some_iff, Option.ite_none_right_eq_some, hany,
    Bool.and_eq_true]
  constructor
  · rintro ⟨x, hx, rel, hrel, t, ht, he, ha⟩
    cases ha
    exact ⟨hx, hrel, ht, he⟩
  · rintro ⟨hx, hrel, ht, he⟩
    exact ⟨_, hx, _, hrel, _, ht, he, rfl⟩

theorem attachments_succ :
    m.attachments r o base (k + 1) =
      m.attachments r o base k ++ (m.attachment? r o base k).toList := by
  rw [attachments, List.range_succ, List.filterMap_append]
  cases ha : m.attachment? r o base k <;> simp [attachments, ha]

@[simp] theorem mem_attachments :
    a ∈ m.attachments r o base k ↔ ∃ k' < k, m.attachment? r o base k' = some a := by
  simp [attachments]

theorem sent_eq (name : String) :
    m.sent r o base k name = (m.attachments r o base k).flatMap fun a =>
      if a.target.name = name then a.rel.reverses m a.method else [] := by
  induction k with
  | zero => rfl
  | succ k ih =>
    rw [attachments_succ, List.flatMap_append, ← ih, sent, List.range_succ, List.flatMap_append,
      List.flatMap_singleton, reversesAt]
    cases m.attachment? r o base k with
    | none => simp [sent]
    | some a => simp [sent]

theorem filter_attachments_succ_of_ne {x : Method} (hx : m.methods[k]? = some x)
    (h : ∀ rel, RelationMethod.parse? x.name = some rel → rel.scope ≠ relation) :
    (m.attachments r o base (k + 1)).filter (·.rel.scope == relation) =
      (m.attachments r o base k).filter (·.rel.scope == relation) := by
  rw [attachments_succ, List.filter_append]
  cases ha : m.attachment? r o base k with
  | none => simp
  | some a =>
    obtain ⟨hx', hrel, -⟩ := attachment?_eq_some_iff.1 ha
    obtain rfl := Option.some.inj (hx.symm.trans hx')
    simp [h a.rel hrel]

theorem latched_succ {x : Method} {rel : RelationMethod} (hx : m.methods[k]? = some x)
    (hrel : RelationMethod.parse? x.name = some rel)
    (hd : m.destination? r o base rel.scope = some target) :
    latched r target (m.relationMethods r rel.scope (m.methods.take (k + 1))) =
      latched r target (m.relationMethods r rel.scope (m.methods.take k)) ++
        (m.attachment? r o base k).toList.map (·.method) := by
  obtain ⟨c, hc, -⟩ := Option.bind_eq_some_iff.1 hd
  rw [attachment?_eq hx hrel hc, hd, Option.bind_some, relationMethods_take_succ hx hrel hc,
    latched_append, latched_isEmpty, List.any_append]
  cases hseen : (m.relationMethods r rel.scope (m.methods.take k)).any (target.exposes r) with
  | true => simp
  | false =>
    have hnil : latched r target (m.relationMethods r rel.scope (m.methods.take k)) = [] := by
      rw [← List.isEmpty_iff, latched_isEmpty, hseen]
      rfl
    rw [hnil]
    cases hx' : target.exposes r x <;> simp [hx']

theorem latched_eq (hd : m.destination? r o base relation = some target) :
    ∀ {k : Nat}, k ≤ m.methods.length →
      latched r target (m.relationMethods r relation (m.methods.take k)) =
        ((m.attachments r o base k).filter (·.rel.scope == relation)).map (·.method) := by
  intro k hk
  induction k with
  | zero => simp [relationMethods, latched, attachments]
  | succ k ih =>
    have hx : m.methods[k]? = some m.methods[k] := List.getElem?_eq_getElem hk
    generalize m.methods[k] = x at hx
    by_cases h : ∀ rel, RelationMethod.parse? x.name = some rel → rel.scope ≠ relation
    · rw [relationMethods_take_succ_of_ne hx h, filter_attachments_succ_of_ne hx h,
        ih (Nat.le_of_succ_le hk)]
    · push Not at h
      obtain ⟨rel, hrel, rfl⟩ := h
      -- past the first exposed method each one is attached, before it none
      rw [latched_succ hx hrel hd, ih (Nat.le_of_succ_le hk), attachments_succ, List.filter_append,
        List.map_append]
      congr 1
      cases ha : m.attachment? r o base k with
      | none => rfl
      | some a =>
        obtain ⟨hx', hrel', -⟩ := attachment?_eq_some_iff.1 ha
        obtain rfl := Option.some.inj (hx.symm.trans hx')
        obtain rfl := Option.some.inj (hrel.symm.trans hrel')
        simp

theorem operations_map {attached : List Attachment}
    (h : ∀ a ∈ attached, RelationMethod.parse? a.method.name = some a.rel) :
    m.operations (attached.map (·.method)) =
      attached.foldl (fun d a => a.rel.record m a.method d) [] := by
  rw [operations, List.foldl_map]
  apply List.foldl_ext
  intro d a ha
  rw [h a ha]
  rfl

theorem slotAt_resolved {s : Scope} (hk : k ≤ m.methods.length)
    (h : m.slotAt r o base k relation = some (.resolved s)) :
    ∃ target, m.destination? r o base relation = some target ∧ s.target = target.name ∧
      s.methods = ((m.attachments r o base k).filter (·.rel.scope == relation)).foldl
        (fun d a => a.rel.record m a.method d) [] := by
  cases hd : m.destination? r o base relation with
  | none =>
    simp only [slotAt, slotAfter, hd] at h
    split at h <;> cases h
  | some target =>
    refine ⟨target, rfl, target_of_slotAfter hd h, ?_⟩
    simp only [slotAt, slotAfter, hd] at h
    split at h
    · cases h
    · obtain rfl := Slot.resolved.inj (Option.some.inj h)
      rw [latched_eq hd hk, operations_map]
      intro a ha
      obtain ⟨k', -, ha'⟩ := mem_attachments.1 (List.mem_of_mem_filter ha)
      exact (attachment?_eq_some_iff.1 ha').2.1

theorem slotAt_of_mem_attachments (hk : k ≤ m.methods.length)
    (ha : a ∈ m.attachments r o base k) :
    ∃ d, m.slotAt r o base k a.rel.scope = some (.resolved ⟨a.target.name, d⟩) := by
  obtain ⟨k', -, ha'⟩ := mem_attachments.1 ha
  have hd := (attachment?_eq_some_iff.1 ha').2.2.1
  have hl : (latched r a.target (m.relationMethods r a.rel.scope (m.methods.take k))).isEmpty =
      false := by
    rw [latched_eq hd hk, List.isEmpty_map, List.isEmpty_eq_false_iff]
    exact List.ne_nil_of_mem (List.mem_filter.2 ⟨ha, beq_self_eq_true _⟩)
  simp only [slotAt, slotAfter, hd, hl, Bool.false_eq_true, if_false]
  exact ⟨_, rfl⟩

theorem exists_attachment_of_slotAt (hk : k ≤ m.methods.length)
    (h : m.slotAt r o base k relation = some (.resolved s)) :
    ∃ j a, m.attachment? r o base j = some a ∧ a.rel.scope = relation := by
  obtain ⟨target, hd, -⟩ := slotAt_resolved hk h
  simp only [slotAt, slotAfter, hd] at h
  split at h
  · cases h
  · next hlatched =>
    rw [latched_eq hd hk, List.isEmpty_map, Bool.not_eq_true, List.isEmpty_eq_false_iff] at hlatched
    obtain ⟨a, ha⟩ := List.exists_mem_of_ne_nil _ hlatched
    obtain ⟨hmem, hrel⟩ := List.mem_filter.1 ha
    obtain ⟨j, -, hj⟩ := mem_attachments.1 hmem
    exact ⟨j, a, hj, eq_of_beq hrel⟩

end Model

namespace RelationMethod

variable {rel : RelationMethod} {m : Model} {x c : Method} {api : String} {d : Dictionary Method}

theorem exists_reverse_of_mem_record (h : (api, c) ∈ rel.record m x d) :
    (api, c) ∈ d ∨ ∃ y ∈ rel.reverses m x, c = y.exposed := by
  simp only [record, reverses] at h ⊢
  split at h
  · next hc =>
    rw [if_pos hc]
    rcases Dictionary.mem_of_mem_insert h with h | h
    · cases h
      exact .inr ⟨_, List.mem_cons_of_mem _ (List.mem_singleton_self _), rfl⟩
    · rcases Dictionary.mem_of_mem_insert h with h | h
      · cases h
        exact .inr ⟨_, List.mem_cons_self, rfl⟩
      · exact .inl h
  · next hc =>
    rw [if_neg hc]
    rcases Dictionary.mem_of_mem_insert h with h | h
    · cases h
      exact .inr ⟨_, List.mem_cons_self, rfl⟩
    · exact .inl h

theorem exists_attachment_of_mem_foldl {attached : List Attachment} {c : Method} :
    (api, c) ∈ attached.foldl (fun d a => a.rel.record m a.method d) d →
      (api, c) ∈ d ∨ ∃ a ∈ attached, ∃ y ∈ a.rel.reverses m a.method, c = y.exposed := by
  induction attached generalizing d with
  | nil => exact .inl
  | cons a attached ih =>
    intro h
    rcases ih h with h | ⟨a', ha', hy⟩
    · rcases exists_reverse_of_mem_record h with h | hy
      · exact .inl h
      · exact .inr ⟨a, List.mem_cons_self, hy⟩
    · exact .inr ⟨a', List.mem_cons_of_mem _ ha', hy⟩

end RelationMethod

end AngularClient
