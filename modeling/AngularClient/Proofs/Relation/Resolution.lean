import AngularClient.Proofs.Relation.Run

/-! Resolving a whole set.  Methods are resolved in the order of models and then of methods; before
the method `k` of the model at `i` its turn, every model is what `Reached` says. -/

namespace AngularClient

namespace ModelSet

variable (r : Registry) (o : Options) (base : ModelSet)

/-- The reverse methods that the model of a name gets from the models before the index `i` and from
the first `k` methods of the model there. -/
def received (i k : Nat) (name : String) : List Method :=
  (base.take i).flatMap (fun m => m.sent r o base m.methods.length name) ++
    base[i]?.toList.flatMap fun m => m.sent r o base k name

def attach (set : ModelSet) (i k t : Nat) (rel : RelationMethod) (n target : Model) (x : Method) :
    ModelSet :=
  (set.modify i (rel.attachTo target.name k x)).modify t fun m =>
    { m with methods := m.methods ++ rel.reverses n x }

def progress (i k j : Nat) (m : Model) : Nat :=
  if j < i then m.methods.length else if j = i then k else 0

structure Reached (i k : Nat) (set : ModelSet) : Prop where
  frame : set.map Model.frame = base.map Model.frame
  models : ∀ {j : Nat} {m n : Model}, base[j]? = some m → set[j]? = some n →
    m.Resolved r o base (progress i k j m) (received r o base i k m.name) n

variable {r o base} {set : ModelSet} {i k : Nat} {m n : Model} {x : Method} {rel : RelationMethod}
  {c : String}

theorem resolveMethod_of_not_relation (hn : set[i]? = some n) (hx : n.methods[k]? = some x)
    (h : ∀ rel, RelationMethod.parse? x.name = some rel → n.targetClass? r rel.scope = none) :
    resolveMethod r o i k set = set := by
  unfold resolveMethod
  cases hc : r.class? n.declaredName with
  | none => simp [hn, hc]
  | some d =>
    cases hrel : RelationMethod.parse? x.name with
    | none => simp [hn, hc, hx, hrel]
    | some rel =>
      have ht : d.relationTarget rel.scope = none := by
        simpa [Model.targetClass?, hc] using h rel hrel
      simp [hn, hc, hx, hrel, ht]

theorem resolveMethod_of_no_method (hn : set[i]? = some n) (hx : n.methods[k]? = none) :
    resolveMethod r o i k set = set := by
  unfold resolveMethod
  cases hc : r.class? n.declaredName with
  | none => simp [hn, hc]
  | some d => simp [hn, hc, hx]

section Relation

variable (hn : set[i]? = some n) (hx : n.methods[k]? = some x)
  (hrel : RelationMethod.parse? x.name = some rel) (hc : n.targetClass? r rel.scope = some c)
include hn hx hrel hc

theorem resolveMethod_of_pass (he : rel.effect r o set n x c = .pass) :
    resolveMethod r o i k set = set := by
  obtain ⟨d, hd, ht⟩ := Option.bind_eq_some_iff.1 hc
  simp [resolveMethod, hn, hd, hx, hrel, ht, he]

theorem resolveMethod_of_skip (he : rel.effect r o set n x c = .skip) :
    resolveMethod r o i k set =
      set.modify i fun n => { n with scopes := n.scopes.insert rel.scope .skipped } := by
  obtain ⟨d, hd, ht⟩ := Option.bind_eq_some_iff.1 hc
  simp [resolveMethod, hn, hd, hx, hrel, ht, he]

theorem resolveMethod_of_attach {t : Nat} {target : Model}
    (he : rel.effect r o set n x c = .attach t) (htarget : set[t]? = some target) :
    resolveMethod r o i k set = set.attach i k t rel n target x := by
  obtain ⟨d, hd, ht⟩ := Option.bind_eq_some_iff.1 hc
  simp [resolveMethod, attach, hn, hd, hx, hrel, ht, he, htarget]

theorem resolveMethod_of_no_target {t : Nat} (he : rel.effect r o set n x c = .attach t)
    (htarget : set[t]? = none) : resolveMethod r o i k set = set := by
  obtain ⟨d, hd, ht⟩ := Option.bind_eq_some_iff.1 hc
  simp [resolveMethod, hn, hd, hx, hrel, ht, he, htarget]

end Relation

inductive MethodStep (r : Registry) (o : Options) (i k : Nat) (set : ModelSet) : ModelSet → Prop
  | pass : MethodStep r o i k set set
  | skip {n : Model} {x : Method} {rel : RelationMethod} {c : String} (hn : set[i]? = some n)
      (hx : n.methods[k]? = some x) (hrel : RelationMethod.parse? x.name = some rel)
      (hc : n.targetClass? r rel.scope = some c) (he : rel.effect r o set n x c = .skip) :
      MethodStep r o i k set
        (set.modify i fun n => { n with scopes := n.scopes.insert rel.scope .skipped })
  | attach {n target : Model} {x : Method} {rel : RelationMethod} {c : String} {t : Nat}
      (hn : set[i]? = some n) (hx : n.methods[k]? = some x)
      (hrel : RelationMethod.parse? x.name = some rel) (hc : n.targetClass? r rel.scope = some c)
      (he : rel.effect r o set n x c = .attach t) (htarget : set[t]? = some target) :
      MethodStep r o i k set (set.attach i k t rel n target x)

theorem methodStep (r : Registry) (o : Options) (i k : Nat) (set : ModelSet) :
    MethodStep r o i k set (resolveMethod r o i k set) := by
  cases hn : set[i]? with
  | none =>
    have h : resolveMethod r o i k set = set := by simp [resolveMethod, hn]
    rw [h]
    exact .pass
  | some n =>
    cases hx : n.methods[k]? with
    | none =>
      rw [resolveMethod_of_no_method hn hx]
      exact .pass
    | some x =>
      by_cases hnone : ∀ rel, RelationMethod.parse? x.name = some rel →
          n.targetClass? r rel.scope = none
      · rw [resolveMethod_of_not_relation hn hx hnone]
        exact .pass
      · push Not at hnone
        obtain ⟨rel, hrel, hc⟩ := hnone
        obtain ⟨c, hc⟩ := Option.ne_none_iff_exists'.1 hc
        cases he : rel.effect r o set n x c with
        | pass =>
          rw [resolveMethod_of_pass hn hx hrel hc he]
          exact .pass
        | skip =>
          rw [resolveMethod_of_skip hn hx hrel hc he]
          exact .skip hn hx hrel hc he
        | attach t =>
          cases htarget : set[t]? with
          | none =>
            rw [resolveMethod_of_no_target hn hx hrel hc he htarget]
            exact .pass
          | some target =>
            rw [resolveMethod_of_attach hn hx hrel hc he htarget]
            exact .attach hn hx hrel hc he htarget

theorem received_succ (hm : base[i]? = some m) (name : String) :
    received r o base i (k + 1) name =
      received r o base i k name ++ m.reversesAt r o base name k := by
  simp [received, hm, Model.sent, List.range_succ]

theorem received_next (hm : base[i]? = some m) (name : String) :
    received r o base i m.methods.length name = received r o base (i + 1) 0 name := by
  simp [received, hm, Model.sent, List.take_add_one]

namespace Reached

theorem start (hbase : base.Fresh r) : Reached r o base 0 0 base where
  frame := rfl
  models := by
    intro j m n hm hn
    obtain rfl := Option.some.inj (hm.symm.trans hn)
    have hp : progress 0 0 j m = 0 := by simp [progress]
    have hr : received r o base 0 0 m.name = [] := by simp [received, Model.sent]
    rw [hp, hr]
    exact .start (hbase.unscoped m (List.mem_of_getElem? hm))

theorem exists_model (h : Reached r o base i k set) {j : Nat} (hm : base[j]? = some m) :
    ∃ n, set[j]? = some n ∧ n.frame = m.frame := by
  have hj := congrArg (·[j]?) h.frame
  simp only [List.getElem?_map, hm, Option.map_some, Option.map_eq_some_iff] at hj
  exact hj

@[simp] theorem progress_self (m : Model) : progress i k i m = k := by simp [progress]

theorem progress_of_ne {j : Nat} (hj : j ≠ i) (m : Model) :
    progress i (k + 1) j m = progress i k j m := by
  simp [progress, hj]

theorem method (h : Reached r o base i k set) (hm : base[i]? = some m) (hn : set[i]? = some n)
    (hx : m.methods[k]? = some x) : n.methods[k]? = some x := by
  have hk : k < (m.ownMethods r o base k).length := by
    rw [Model.length_ownMethods]
    exact (List.getElem?_eq_some_iff.1 hx).1
  have hr := h.models hm hn
  rw [progress_self] at hr
  rw [hr.methods, List.getElem?_append_left hk, Model.getElem?_ownMethods, hx]
  simp

@[simp] theorem reversesAt_of_none (ha : m.attachment? r o base k = none) (name : String) :
    m.reversesAt r o base name k = [] := by
  simp [Model.reversesAt, ha]

section Step

variable (h : Reached r o base i k set) (hm : base[i]? = some m)
include h hm

theorem pass (ha : m.attachment? r o base k = none)
    (hs : ∀ relation, m.slotAt r o base (k + 1) relation = m.slotAt r o base k relation) :
    Reached r o base i (k + 1) set where
  frame := h.frame
  models := by
    intro j m' n hm' hn
    rw [received_succ hm, reversesAt_of_none ha, List.append_nil]
    by_cases hj : j = i
    · subst hj
      obtain rfl := Option.some.inj (hm.symm.trans hm')
      have hr := h.models hm' hn
      rw [progress_self] at hr ⊢
      exact hr.pass ha hs
    · rw [progress_of_ne hj]
      exact h.models hm' hn

theorem skip (hx : m.methods[k]? = some x) (hrel : RelationMethod.parse? x.name = some rel)
    (hc : m.targetClass? r rel.scope = some c)
    (hd : m.destination? r o base rel.scope = none) :
    Reached r o base i (k + 1)
      (set.modify i fun n => { n with scopes := n.scopes.insert rel.scope .skipped }) where
  frame := by
    refine (map_modify ?_ _ _).trans h.frame
    intro _
    rfl
  models := by
    intro j m' n hm' hn
    have ha : m.attachment? r o base k = none := by
      rw [Model.attachment?_eq hx hrel hc, hd]
      rfl
    rw [received_succ hm, reversesAt_of_none ha, List.append_nil]
    rw [List.getElem?_modify] at hn
    obtain ⟨n', hn', rfl⟩ := Option.map_eq_some_iff.1 hn
    by_cases hj : j = i
    · subst hj
      obtain rfl := Option.some.inj (hm.symm.trans hm')
      have hr := h.models hm' hn'
      rw [progress_self] at hr ⊢
      rw [if_pos rfl]
      exact hr.skip hx hrel hc hd
    · rw [progress_of_ne hj, if_neg (Ne.symm hj)]
      exact h.models hm' hn'

theorem attach_source {target : Model} (hx : m.methods[k]? = some x)
    (hrel : RelationMethod.parse? x.name = some rel) (hc : m.targetClass? r rel.scope = some c)
    (hd : m.destination? r o base rel.scope = some target)
    (ha : m.attachment? r o base k = some ⟨rel, x, target⟩) {j : Nat} {m' n' : Model}
    (hm' : base[j]? = some m') (hn' : set[j]? = some n') :
    m'.Resolved r o base (progress i (k + 1) j m') (received r o base i k m'.name)
      (if i = j then rel.attachTo target.name k x n' else n') := by
  by_cases hj : j = i
  · subst hj
    obtain rfl := Option.some.inj (hm.symm.trans hm')
    have hr := h.models hm' hn'
    rw [progress_self] at hr ⊢
    rw [if_pos rfl]
    exact hr.attach hx hrel hc hd ha
  · rw [progress_of_ne hj, if_neg (Ne.symm hj)]
    exact h.models hm' hn'

theorem attach (hbase : base.names.Nodup) {t : Nat} {target : Model}
    (hn : set[i]? = some n) (hx : m.methods[k]? = some x)
    (hrel : RelationMethod.parse? x.name = some rel) (hc : m.targetClass? r rel.scope = some c)
    (hd : m.destination? r o base rel.scope = some target) (ht : base[t]? = some target)
    (ha : m.attachment? r o base k = some ⟨rel, x, target⟩) :
    Reached r o base i (k + 1)
      ((set.modify i (rel.attachTo target.name k x)).modify t fun m =>
        { m with methods := m.methods ++ rel.reverses n x }) where
  frame := by
    refine (map_modify ?_ _ _).trans ((map_modify ?_ _ _).trans h.frame)
    · intro _; rfl
    · intro _; rfl
  models := by
    intro j m' n' hm' hn'
    rw [List.getElem?_modify] at hn'
    obtain ⟨n₁, hn₁, rfl⟩ := Option.map_eq_some_iff.1 hn'
    rw [List.getElem?_modify] at hn₁
    obtain ⟨n₀, hn₀, rfl⟩ := Option.map_eq_some_iff.1 hn₁
    -- of a self relation the one model is source and target: it is marked first, then receives
    have hsource := h.attach_source hm hx hrel hc hd ha hm' hn₀
    rw [received_succ hm]
    by_cases hj : t = j
    · subst hj
      obtain rfl := Option.some.inj (ht.symm.trans hm')
      have hrev : m.reversesAt r o base target.name k = rel.reverses n x := by
        simp [Model.reversesAt, ha, RelationMethod.reverses_congr (h.models hm hn).frame]
      rw [if_pos rfl, hrev]
      exact hsource.receive _
    -- targets are found by index but receive by name, and names are distinct
    · have hne : target.name ≠ m'.name := by
        intro heq
        have hp := position?_name hbase ht
        rw [heq, position?_name hbase hm'] at hp
        exact hj (Option.some.inj hp).symm
      have hrev : m.reversesAt r o base m'.name k = [] := by
        simp [Model.reversesAt, ha, hne]
      rw [if_neg hj, hrev, List.append_nil]
      exact hsource

end Step

section Relation

variable (h : Reached r o base i k set) (hm : base[i]? = some m) (hn : set[i]? = some n)
  (hx : m.methods[k]? = some x) (hrel : RelationMethod.parse? x.name = some rel)
  (hc : m.targetClass? r rel.scope = some c)
include h hm hn hx hrel hc

omit hx hrel hc in
theorem find?_scopes (relation : String) :
    n.scopes.find? relation = m.slotAt r o base k relation := by
  have hr := (h.models hm hn).slots relation
  rwa [progress_self] at hr

theorem step_of_no_destination (hd : m.destination? r o base rel.scope = none) :
    Reached r o base i (k + 1) (resolveMethod r o i k set) := by
  have hnx := h.method hm hn hx
  have hnc := (Model.targetClass?_congr (Model.declaredName_eq (h.models hm hn).frame) _).trans hc
  have he := RelationMethod.effect_of_no_destination (x := x) h.frame hc
    (h.find?_scopes hm hn rel.scope) hd
  cases hseen : (m.relationMethods r rel.scope (m.methods.take k)).isEmpty with
  | true =>
    rw [hseen, if_pos rfl] at he
    rw [resolveMethod_of_skip hn hnx hrel hnc he]
    exact h.skip hm hx hrel hc hd
  | false =>
    rw [hseen, if_neg Bool.false_ne_true] at he
    rw [resolveMethod_of_pass hn hnx hrel hnc he]
    have ha : m.attachment? r o base k = none := by
      rw [Model.attachment?_eq hx hrel hc, hd]
      rfl
    exact h.pass hm ha (Model.slotAt_succ_of_no_destination hx hrel hc hd hseen)

theorem step_of_exposed (hbase : base.names.Nodup) {target : Model}
    (hd : m.destination? r o base rel.scope = some target)
    (he : (m.relationMethods r rel.scope (m.methods.take k) ++ [x]).any (target.exposes r) = true) :
    Reached r o base i (k + 1) (resolveMethod r o i k set) := by
  have hnx := h.method hm hn hx
  have hnc := (Model.targetClass?_congr (Model.declaredName_eq (h.models hm hn).frame) _).trans hc
  have ha : m.attachment? r o base k = some ⟨rel, x, target⟩ := by
    rw [Model.attachment?_eq hx hrel hc, hd, Option.bind_some,
      Model.relationMethods_take_succ hx hrel hc, he, if_pos rfl]
  obtain ⟨t, ht, heff⟩ := RelationMethod.effect_of_exposed hbase h.frame hc
    (h.find?_scopes hm hn rel.scope) hd he
  obtain ⟨target', ht', hframe⟩ := h.exists_model ht
  rw [resolveMethod_of_attach hn hnx hrel hnc heff ht', ModelSet.attach, Model.name_eq hframe]
  exact h.attach hm hbase hn hx hrel hc hd ht ha

theorem step_of_not_exposed {target : Model}
    (hd : m.destination? r o base rel.scope = some target)
    (he : (m.relationMethods r rel.scope (m.methods.take k) ++ [x]).any (target.exposes r) = false) :
    Reached r o base i (k + 1) (resolveMethod r o i k set) := by
  have hnx := h.method hm hn hx
  have hnc := (Model.targetClass?_congr (Model.declaredName_eq (h.models hm hn).frame) _).trans hc
  have ha : m.attachment? r o base k = none := by
    rw [Model.attachment?_eq hx hrel hc, hd, Option.bind_some,
      Model.relationMethods_take_succ hx hrel hc, he, if_neg Bool.false_ne_true]
  rw [resolveMethod_of_pass hn hnx hrel hnc (RelationMethod.effect_of_not_exposed h.frame hc
    (h.find?_scopes hm hn rel.scope) hd he)]
  exact h.pass hm ha (Model.slotAt_succ_of_not_exposed hx hrel hc hd he)

end Relation

theorem step (hbase : base.Fresh r) (h : Reached r o base i k set) (hm : base[i]? = some m)
    (hk : k < m.methods.length) : Reached r o base i (k + 1) (resolveMethod r o i k set) := by
  obtain ⟨n, hn, hframe⟩ := h.exists_model hm
  have hx : m.methods[k]? = some m.methods[k] := List.getElem?_eq_getElem hk
  generalize m.methods[k] = x at hx
  by_cases hnone : ∀ rel, RelationMethod.parse? x.name = some rel →
      m.targetClass? r rel.scope = none
  · have hnone' : ∀ rel, RelationMethod.parse? x.name = some rel →
        n.targetClass? r rel.scope = none := by
      intro rel hrel
      rw [Model.targetClass?_congr (Model.declaredName_eq hframe), hnone rel hrel]
    rw [resolveMethod_of_not_relation hn (h.method hm hn hx) hnone']
    exact h.pass hm (Model.attachment?_eq_none hx hnone)
      (Model.slotAt_succ_of_not_relation hx hnone)
  · push Not at hnone
    obtain ⟨rel, hrel, hc⟩ := hnone
    obtain ⟨c, hc⟩ := Option.ne_none_iff_exists'.1 hc
    cases hd : m.destination? r o base rel.scope with
    | none => exact h.step_of_no_destination hm hn hx hrel hc hd
    | some target =>
      cases he : (m.relationMethods r rel.scope (m.methods.take k) ++ [x]).any
          (target.exposes r) with
      | true => exact h.step_of_exposed hm hn hx hrel hc hbase.distinct hd he
      | false => exact h.step_of_not_exposed hm hn hx hrel hc hd he

theorem next (h : Reached r o base i m.methods.length set) (hm : base[i]? = some m) :
    Reached r o base (i + 1) 0 set where
  frame := h.frame
  models := by
    intro j m' n hm' hn
    have hp : progress (i + 1) 0 j m' = progress i m.methods.length j m' := by
      unfold progress
      by_cases hj : j = i
      · subst hj
        obtain rfl := Option.some.inj (hm.symm.trans hm')
        simp
      · have : j < i + 1 ↔ j < i := by omega
        simp [this, hj]
    rw [hp, ← received_next hm]
    exact h.models hm' hn

end Reached

theorem parse?_of_mem_reversesAt {name : String} {y : Method}
    (hy : y ∈ m.reversesAt r o base name k) : RelationMethod.parse? y.name = none := by
  unfold Model.reversesAt at hy
  split at hy
  · split at hy
    · exact RelationMethod.parse?_of_mem_reverses hy
    · cases hy
  · cases hy

theorem parse?_of_mem_received {name : String} {y : Method}
    (hy : y ∈ received r o base i k name) : RelationMethod.parse? y.name = none := by
  rw [received, List.mem_append, List.mem_flatMap, List.mem_flatMap] at hy
  obtain ⟨m, -, hy⟩ | ⟨m, -, hy⟩ := hy
  all_goals
    obtain ⟨k', -, hy⟩ := List.mem_flatMap.1 hy
    exact parse?_of_mem_reversesAt hy

namespace Reached

theorem resolveMethod_of_length_le (h : Reached r o base i m.methods.length set)
    (hm : base[i]? = some m) (hk : m.methods.length ≤ k) : resolveMethod r o i k set = set := by
  obtain ⟨n, hn, -⟩ := h.exists_model hm
  cases hx : n.methods[k]? with
  | none => exact resolveMethod_of_no_method hn hx
  | some x =>
    have hr := h.models hm hn
    rw [progress_self] at hr
    rw [hr.methods, List.getElem?_append_right (by simpa using hk)] at hx
    have hnone := parse?_of_mem_received (List.mem_of_getElem? hx)
    apply resolveMethod_of_not_relation (x := x) hn
    · rw [hr.methods, List.getElem?_append_right (by simpa using hk), hx]
    · intro rel hrel
      rw [hnone] at hrel
      cases hrel

theorem own (hbase : base.Fresh r) (h : Reached r o base i 0 set) (hm : base[i]? = some m)
    (hk : k ≤ m.methods.length) :
    Reached r o base i k ((List.range k).foldl (fun set k => resolveMethod r o i k set) set) := by
  induction k with
  | zero => exact h
  | succ k ih =>
    rw [List.range_succ, List.foldl_append]
    exact (ih (Nat.le_of_succ_le hk)).step hbase hm hk

theorem model (hbase : base.Fresh r) (h : Reached r o base i 0 set) (hm : base[i]? = some m) :
    Reached r o base (i + 1) 0 (resolveModel r o set i) := by
  have hown := h.own hbase hm (Nat.le_refl m.methods.length)
  have hrest : ∀ d, (List.range (m.methods.length + d)).foldl
      (fun set k => resolveMethod r o i k set) set =
        (List.range m.methods.length).foldl (fun set k => resolveMethod r o i k set) set := by
    intro d
    induction d with
    | zero => rfl
    | succ d ih =>
      rw [← Nat.add_assoc, List.range_succ, List.foldl_append, ih]
      exact hown.resolveMethod_of_length_le hm (Nat.le_add_right _ d)
  obtain ⟨n, hn, -⟩ := h.exists_model hm
  have hr := h.models hm hn
  -- the scan is bounded by the methods there when it starts, received ones included
  have hcount : ∃ d, n.methods.length = m.methods.length + d := by
    rw [hr.methods, List.length_append, Model.length_ownMethods]
    exact ⟨_, rfl⟩
  obtain ⟨d, hd⟩ := hcount
  rw [resolveModel, hn, Option.map_some, Option.getD_some, hd, hrest]
  exact hown.next hm

theorem all (hbase : base.Fresh r) (hi : i ≤ base.length) :
    Reached r o base i 0 ((List.range i).foldl (resolveModel r o) base) := by
  induction i with
  | zero => exact start hbase
  | succ i ih =>
    rw [List.range_succ, List.foldl_append]
    exact (ih (Nat.le_of_succ_le hi)).model hbase (List.getElem?_eq_getElem hi)

end Reached

def reversesFor (r : Registry) (o : Options) (base : ModelSet) (name : String) : List Method :=
  base.flatMap fun m => m.sent r o base m.methods.length name

theorem reached_resolveScopes (hbase : base.Fresh r) :
    Reached r o base base.length 0 (base.resolveScopes r o) :=
  Reached.all hbase (Nat.le_refl _)

/-- Resolving a set keeps its models in place, and leaves each resolved to its last method and with
the reverse methods of all. -/
theorem exists_resolved (hbase : base.Fresh r) (hm : base[i]? = some m) :
    ∃ n, (base.resolveScopes r o)[i]? = some n ∧
      m.Resolved r o base m.methods.length (base.reversesFor r o m.name) n := by
  have h := reached_resolveScopes (o := o) hbase
  obtain ⟨n, hn, -⟩ := h.exists_model hm
  have hr := h.models hm hn
  have hi : i < base.length := (List.getElem?_eq_some_iff.1 hm).1
  have hp : progress base.length 0 i m = m.methods.length := by simp [progress, hi]
  have hv : received r o base base.length 0 m.name = base.reversesFor r o m.name := by
    simp [received, reversesFor]
  rw [hp, hv] at hr
  exact ⟨n, hn, hr⟩

@[simp] theorem length_resolveScopes (hbase : base.Fresh r) :
    (base.resolveScopes r o).length = base.length := by
  simpa using congrArg List.length (reached_resolveScopes (o := o) hbase).frame

end ModelSet

end AngularClient
