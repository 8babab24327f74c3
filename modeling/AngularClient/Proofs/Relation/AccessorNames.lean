import AngularClient.Proofs.Relation.Accessors
import AngularClient.Proofs.Relation.Reachable
import Mathlib.Data.List.Lex

namespace AngularClient

section Order

theorem lt_append_of_lt {s t : String} (h : s < t) (u : String) : s < t ++ u := by
  rw [String.lt_iff, String.toList_append]
  exact List.Lex.append_right _ _ (String.lt_iff.1 h)

theorem lt_append_self {t : String} (s : String) (ht : t ≠ "") : s < s ++ t := by
  rw [String.lt_iff, String.toList_append]
  cases ht' : t.toList with
  | nil => exact absurd (String.toList_eq_nil_iff.1 ht') ht
  | cons c rest =>
    have hnil : List.Lex (· < ·) ([] : List Char) (c :: rest) := .nil
    have hlex := List.Lex.append_left _ hnil s.toList
    rwa [List.append_nil] at hlex

end Order

def memberPath (object member : String) : String := object ++ "." ++ member

def objectPath? (path : String) : Option String :=
  match path.toList.reverse.dropWhile (· != '.') with
  | [] => none
  | _ :: rest => some (String.ofList rest.reverse)

section Paths

variable {object member path : String}

@[simp] theorem toList_memberPath : (memberPath object member).toList =
    object.toList ++ '.' :: member.toList := by
  simp [memberPath]

theorem lt_memberPath : object < memberPath object member := by
  rw [memberPath, String.append_assoc]
  apply lt_append_self
  intro h
  have hlist := congrArg String.toList h
  simp at hlist

@[simp] theorem objectPath?_memberPath (h : '.' ∉ member.toList) :
    objectPath? (memberPath object member) = some object := by
  have hdrop : (memberPath object member).toList.reverse.dropWhile (· != '.') =
      '.' :: object.toList.reverse := by
    rw [toList_memberPath, List.reverse_append, List.reverse_cons, List.append_assoc,
      List.dropWhile_append_of_pos]
    · rfl
    · intro c hc
      rw [bne_iff_ne]
      rintro rfl
      exact h (List.mem_reverse.1 hc)
  rw [objectPath?, hdrop]
  simp

@[simp] theorem objectPath?_eq_none (h : '.' ∉ path.toList) : objectPath? path = none := by
  have hdrop : path.toList.reverse.dropWhile (· != '.') = [] := by
    rw [List.dropWhile_eq_nil_iff]
    intro c hc
    rw [bne_iff_ne]
    rintro rfl
    exact h (List.mem_reverse.1 hc)
  rw [objectPath?, hdrop]

theorem dot_mem_memberPath : '.' ∈ (memberPath object member).toList := by
  rw [toList_memberPath]
  exact List.mem_append_right _ List.mem_cons_self

theorem toCreateMany_memberPath : toCreateMany (memberPath object member) =
    if mentionsCreate object then memberPath (toCreateMany object) member
    else memberPath object (toCreateMany member) := by
  rw [← String.toList_inj, toList_toCreateMany, toList_memberPath]
  split
  · next h =>
    rw [Text.replaceFirst_append unbordered_create create_ne_nil (mentionsCreate_iff.1 h),
      toList_memberPath, toList_toCreateMany]
  · next h =>
    rw [Text.replaceFirst_append_cons unbordered_create create_ne_nil (by decide)
      (mt mentionsCreate_iff.2 h), toList_memberPath, toList_toCreateMany]

end Paths

namespace RelationMethod

def apiNames (rel : RelationMethod) (declared : String) : List String :=
  rel.apiName ::
    if mentionsCreate (rel.reverseName declared) then [toCreateMany rel.apiName] else []

variable {rel : RelationMethod} {declared api : String} {m : Model} {x : Method}
  {d : Dictionary Method}

@[simp] theorem mem_apiNames : api ∈ rel.apiNames declared ↔ api = rel.apiName ∨
    mentionsCreate (rel.reverseName declared) = true ∧ api = toCreateMany rel.apiName := by
  simp [apiNames]

theorem apiName_mem_apiNames : rel.apiName ∈ rel.apiNames declared := List.mem_cons_self

theorem apiName_eq : rel.apiName = rel.accessor?.elim rel.scope (memberPath rel.scope) := by
  rw [← String.toList_inj, toList_apiName]
  cases rel.accessor? with
  | none => simp
  | some member => exact toList_memberPath.symm

@[simp] theorem accessor?_eq_none_iff : rel.accessor? = none ↔ rel.op = "get" := by
  unfold accessor?
  split
  · simp [*]
  · split <;> simp [*]

theorem not_mem_accessor? {member : String} (h : '.' ∉ rel.op.toList)
    (hmember : rel.accessor? = some member) : '.' ∉ member.toList := by
  unfold accessor? at hmember
  split at hmember
  · cases hmember
  · split at hmember
    · cases hmember
      decide
    · cases hmember
      exact h

/-- An accessor is the relation itself, if it gets what is related, or else a member of it.  That of
a twin may be one of the relation made into that for many. -/
theorem exists_object (h : api = rel.apiName ∨ api = toCreateMany rel.apiName) :
    ∃ object, (object = rel.scope ∨ object = toCreateMany rel.scope) ∧
      (rel.op = "get" ∧ api = object ∨
        ∃ member, api = memberPath object member ∧
          ('.' ∉ rel.op.toList → '.' ∉ member.toList)) := by
  rw [apiName_eq] at h
  cases hmember : rel.accessor? with
  | none =>
    rw [hmember, Option.elim_none] at h
    exact ⟨api, h, .inl ⟨accessor?_eq_none_iff.1 hmember, rfl⟩⟩
  | some member =>
    rw [hmember, Option.elim_some, toCreateMany_memberPath] at h
    have hdot : '.' ∉ rel.op.toList → '.' ∉ member.toList :=
      fun hop => not_mem_accessor? hop hmember
    rcases h with rfl | rfl
    · exact ⟨rel.scope, .inl rfl, .inr ⟨member, rfl, hdot⟩⟩
    · split
      · exact ⟨toCreateMany rel.scope, .inr rfl, .inr ⟨member, rfl, hdot⟩⟩
      · refine ⟨rel.scope, .inl rfl, .inr ⟨toCreateMany member, rfl, ?_⟩⟩
        intro hop
        exact not_mem_toCreateMany (by decide) (hdot hop)

theorem object_of_objectPath? (h : api = rel.apiName ∨ api = toCreateMany rel.apiName)
    (hop : '.' ∉ rel.op.toList) (hscope : '.' ∉ rel.scope.toList) {p : String}
    (hp : objectPath? api = some p) :
    (p = rel.scope ∨ p = toCreateMany rel.scope) ∧ '.' ∉ p.toList ∧ p < api := by
  obtain ⟨object, hobject, hshape⟩ := exists_object h
  have hdot : '.' ∉ object.toList := by
    rcases hobject with rfl | rfl
    · exact hscope
    · exact not_mem_toCreateMany (by decide) hscope
  rcases hshape with ⟨-, rfl⟩ | ⟨member, rfl, hmember⟩
  · rw [objectPath?_eq_none hdot] at hp
    cases hp
  · rw [objectPath?_memberPath (hmember hop)] at hp
    obtain rfl := Option.some.inj hp
    exact ⟨hobject, hdot, lt_memberPath⟩

theorem op_eq_get (h : api = rel.apiName ∨ api = toCreateMany rel.apiName) :
    api = rel.scope → rel.op = "get" := by
  rintro rfl
  obtain ⟨object, hobject, ⟨hop, -⟩ | ⟨member, hmember, -⟩⟩ := exists_object h
  · exact hop
  · -- a member of the relation, or of that for many, has a longer path than the relation
    have hle : rel.scope.toList.length ≤ object.toList.length := by
      rcases hobject with rfl | rfl
      · exact Nat.le_refl _
      · exact le_length_toCreateMany
    have hlength := congrArg (fun s : String => s.toList.length) hmember
    simp only [toList_memberPath, List.length_append, List.length_cons] at hlength
    omega

theorem lt_of_mem_apiNames (h : api = rel.apiName ∨ api = toCreateMany rel.apiName)
    (hlt : mentionsCreate rel.scope = true → rel.scope < toCreateMany rel.scope)
    (hne : api ≠ rel.scope) : rel.scope < api := by
  obtain ⟨object, hobject, hshape⟩ := exists_object h
  have hor : object = rel.scope ∨ rel.scope < object := by
    rcases hobject with rfl | rfl
    · exact .inl rfl
    · cases hm : mentionsCreate rel.scope with
      | true => exact .inr (hlt hm)
      | false => exact .inl (toCreateMany_eq_self hm)
  rcases hshape with ⟨-, rfl⟩ | ⟨member, rfl, -⟩
  · exact hor.resolve_left hne
  · rcases hor with rfl | hobject
    · exact lt_memberPath
    · rw [memberPath, String.append_assoc]
      exact lt_append_of_lt hobject _

theorem sorted_record (h : d.Sorted) : (rel.record m x d).Sorted := by
  simp only [record]
  split
  · exact (h.insert _ _).insert _ _
  · exact h.insert _ _

@[simp] theorem mem_keys_record : api ∈ (rel.record m x d).keys ↔
    api ∈ rel.apiNames m.declaredName ∨ api ∈ d.keys := by
  rw [mem_apiNames]
  simp only [record]
  split
  · next h =>
    rw [Dictionary.mem_keys_insert, Dictionary.mem_keys_insert, and_iff_right h, or_left_comm,
      or_assoc]
  · next h => simp [h]

end RelationMethod

namespace Model

theorem mem_resolvedScopes_of_scope? {m : Model} {relation : String} {s : Scope}
    (h : m.scope? relation = some s) : (relation, s) ∈ m.resolvedScopes := by
  obtain ⟨slot, hslot, hs⟩ := Option.bind_eq_some_iff.1 h
  refine List.mem_filterMap.2 ⟨(relation, slot), Dictionary.mem_of_find?_eq_some hslot, ?_⟩
  exact congrArg (Option.map (relation, ·)) hs

theorem sorted_resolvedScopes {m : Model} (h : m.scopes.Sorted) : m.resolvedScopes.Sorted := by
  refine List.pairwise_map.2 (List.Pairwise.filterMap _ ?_ (List.pairwise_map.1 h))
  rintro ⟨name, slot⟩ ⟨name', slot'⟩ hlt e he e' he'
  obtain ⟨s, -, rfl⟩ := Option.map_eq_some_iff.1 he
  obtain ⟨s', -, rfl⟩ := Option.map_eq_some_iff.1 he'
  exact hlt

variable {r : Registry} {o : Options} {base : ModelSet} {m : Model} {k : Nat}
  {relation api : String}

theorem sorted_entries : (m.entries r o base k relation).Sorted := by
  have hfold (attached : List Attachment) (d : Dictionary Method) (hd : d.Sorted) :
      Dictionary.Sorted (attached.foldl (fun d a => a.rel.record m a.method d) d) := by
    induction attached generalizing d with
    | nil => exact hd
    | cons a attached ih => exact ih _ (RelationMethod.sorted_record hd)
  exact hfold _ [] .nil

theorem mem_keys_entries : api ∈ (m.entries r o base k relation).keys ↔
    ∃ j < k, ∃ a, m.attachment? r o base j = some a ∧ a.rel.scope = relation ∧
      api ∈ a.rel.apiNames m.declaredName := by
  have hfold (attached : List Attachment) (d : Dictionary Method) :
      api ∈ (attached.foldl (fun d a => a.rel.record m a.method d) d).keys ↔
        (∃ a ∈ attached, api ∈ a.rel.apiNames m.declaredName) ∨ api ∈ d.keys := by
    induction attached generalizing d with
    | nil => simp
    | cons a attached ih =>
      rw [List.foldl_cons, ih, RelationMethod.mem_keys_record, List.exists_mem_cons_iff, or_assoc,
        or_left_comm]
  rw [entries, hfold]
  simp only [Dictionary.keys, List.map_nil, List.not_mem_nil, or_false, List.mem_filter,
    mem_attachments, beq_iff_eq]
  constructor
  · rintro ⟨a, ⟨⟨j, hj, ha⟩, hs⟩, hapi⟩
    exact ⟨j, hj, a, ha, hs, hapi⟩
  · rintro ⟨j, hj, a, ha, hs, hapi⟩
    exact ⟨a, ⟨⟨j, hj, ha⟩, hs⟩, hapi⟩

end Model

namespace Registry

variable {r : Registry} {o : Options} {n : Model} {relation api : String} {s : Scope} {y : Method}
  {rel : RelationMethod}

theorem exists_entries (hn : n ∈ r.describe o) (hs : (relation, s) ∈ n.resolvedScopes) :
    ∃ m ∈ r.unresolved o, m.Becomes r o n ∧
      s.methods = m.entries r o (r.unresolved o) m.methods.length relation := by
  obtain ⟨m, hm, h⟩ := exists_unresolved_of_mem hn
  have hslot := Model.find?_of_mem_resolvedScopes h.sorted hs
  rw [h.slot] at hslot
  obtain ⟨-, -, -, hentries⟩ := Model.slotAt_resolved (Nat.le_refl _) hslot
  exact ⟨m, hm, h, hentries⟩

theorem sorted_operations (hn : n ∈ r.describe o) (hs : (relation, s) ∈ n.resolvedScopes) :
    s.methods.Sorted := by
  obtain ⟨m, -, -, hentries⟩ := exists_entries hn hs
  rw [hentries]
  exact Model.sorted_entries

theorem mem_keys_iff (hn : n ∈ r.describe o) (hs : (relation, s) ∈ n.resolvedScopes) :
    api ∈ s.methods.keys ↔ ∃ y ∈ n.methods, ∃ rel, RelationMethod.parse? y.name = some rel ∧
      y.internal.isSome = true ∧ rel.scope = relation ∧ api ∈ rel.apiNames n.declaredName := by
  obtain ⟨m, hm, h, hentries⟩ := exists_entries hn hs
  rw [hentries, Model.mem_keys_entries, h.declaredName]
  constructor
  · rintro ⟨k, -, a, ha, hscope, hapi⟩
    obtain ⟨y, hy, hrel, hmarked⟩ := h.exists_marked hm ha
    exact ⟨y, List.mem_of_getElem? hy, a.rel, hrel, hmarked, hscope, hapi⟩
  · rintro ⟨y, hy, rel, hrel, hmarked, hscope, hapi⟩
    obtain ⟨k, hk⟩ := List.getElem?_of_mem hy
    obtain ⟨a, ha, rfl, -⟩ := h.exists_attachment hm hk hrel hmarked
    have hlt := (List.getElem?_eq_some_iff.1 (Model.attachment?_eq_some_iff.1 ha).1).1
    exact ⟨k, hlt, a, ha, hscope, hapi⟩

theorem exists_marked_of_resolved (hn : n ∈ r.describe o)
    (hs : (relation, s) ∈ n.resolvedScopes) :
    ∃ y ∈ n.methods, ∃ rel, RelationMethod.parse? y.name = some rel ∧ y.internal.isSome = true ∧
      rel.scope = relation := by
  obtain ⟨m, hm, h⟩ := exists_unresolved_of_mem hn
  have hslot := Model.find?_of_mem_resolvedScopes h.sorted hs
  rw [h.slot] at hslot
  obtain ⟨j, a, ha, hrelation⟩ := Model.exists_attachment_of_slotAt (Nat.le_refl _) hslot
  obtain ⟨y, hy, hrel, hmarked⟩ := h.exists_marked hm ha
  exact ⟨y, List.mem_of_getElem? hy, a.rel, hrel, hmarked, hrelation⟩

theorem exists_resolved_of_marked (hn : n ∈ r.describe o) (hy : y ∈ n.methods)
    (hrel : RelationMethod.parse? y.name = some rel) (hmarked : y.internal.isSome = true) :
    ∃ s, (rel.scope, s) ∈ n.resolvedScopes := by
  obtain ⟨m, hm, h⟩ := exists_unresolved_of_mem hn
  obtain ⟨k, hk⟩ := List.getElem?_of_mem hy
  obtain ⟨a, ha, rfl, -⟩ := h.exists_attachment hm hk hrel hmarked
  have hlt := (List.getElem?_eq_some_iff.1 (Model.attachment?_eq_some_iff.1 ha).1).1
  obtain ⟨d, hslot⟩ := Model.slotAt_of_mem_attachments (Nat.le_refl _)
    (Model.mem_attachments.2 ⟨k, hlt, ha⟩)
  refine ⟨⟨a.target.name, d⟩, Model.mem_resolvedScopes_of_scope? ?_⟩
  rw [Model.scope?, h.slot, hslot]
  rfl

theorem default_mem_keys_iff (hn : n ∈ r.describe o) (hs : (relation, s) ∈ n.resolvedScopes) :
    relation ∈ s.methods.keys ↔ ∃ y ∈ n.methods,
      RelationMethod.parse? y.name = some ⟨"get", relation⟩ ∧ y.internal.isSome = true := by
  rw [mem_keys_iff hn hs]
  constructor
  · rintro ⟨y, hy, rel, hrel, hmarked, rfl, hapi⟩
    have hop := RelationMethod.op_eq_get
      ((RelationMethod.mem_apiNames.1 hapi).imp_right And.right) rfl
    rw [← hop]
    exact ⟨y, hy, hrel, hmarked⟩
  · rintro ⟨y, hy, hrel, hmarked⟩
    exact ⟨y, hy, _, hrel, hmarked, rfl, RelationMethod.apiName_mem_apiNames⟩

theorem toCreateMany_mem_keys (hn : n ∈ r.describe o) (hs : (relation, s) ∈ n.resolvedScopes)
    (hdefault : relation ∈ s.methods.keys) : toCreateMany relation ∈ s.methods.keys := by
  cases hm : mentionsCreate relation with
  | false => rwa [toCreateMany_eq_self hm]
  | true =>
    obtain ⟨y, hy, hrel, hmarked⟩ := (default_mem_keys_iff hn hs).1 hdefault
    refine (mem_keys_iff hn hs).2 ⟨y, hy, _, hrel, hmarked, rfl, ?_⟩
    refine RelationMethod.mem_apiNames.2 (.inr ⟨?_, rfl⟩)
    rw [RelationMethod.mentionsCreate_reverseName, hm, Bool.or_true]

theorem eq_of_mem_keys (hn : n ∈ r.describe o) (hs : (relation, s) ∈ n.resolvedScopes)
    (hapi : api ∈ s.methods.keys) (hdot : '.' ∉ api.toList) :
    relation ∈ s.methods.keys ∧ (api = relation ∨ api = toCreateMany relation) := by
  obtain ⟨y, hy, rel, hrel, hmarked, rfl, hapi⟩ := (mem_keys_iff hn hs).1 hapi
  have hnames := (RelationMethod.mem_apiNames.1 hapi).imp_right And.right
  obtain ⟨object, hobject, ⟨hop, rfl⟩ | ⟨member, rfl, -⟩⟩ := RelationMethod.exists_object hnames
  · refine ⟨(default_mem_keys_iff hn hs).2 ⟨y, hy, ?_, hmarked⟩, hobject⟩
    rw [← hop]
    exact hrel
  · exact absurd dot_mem_memberPath hdot

theorem head?_keys_iff (hn : n ∈ r.describe o) (hs : (relation, s) ∈ n.resolvedScopes)
    (hdefault : relation ∈ s.methods.keys) : s.methods.keys.head? = some relation ↔
      (mentionsCreate relation = true → relation < toCreateMany relation) := by
  have hsorted : s.methods.keys.Pairwise (· < ·) := sorted_operations hn hs
  have htwin := toCreateMany_mem_keys hn hs hdefault
  cases hkeys : s.methods.keys with
  | nil =>
    rw [hkeys] at hdefault
    cases hdefault
  | cons first rest =>
    rw [hkeys] at hsorted htwin hdefault
    have hfirst := (List.pairwise_cons.1 hsorted).1
    rw [List.head?_cons, Option.some.injEq]
    constructor
    · rintro rfl hm
      rcases List.mem_cons.1 htwin with heq | htwin
      · have hself := toCreateMany_eq_self_iff.1 heq
        rw [hm] at hself
        cases hself
      · exact hfirst _ htwin
    · intro hlt
      by_contra hne
      obtain ⟨y, hy, rel, hrel, hmarked, rfl, hapi⟩ := (mem_keys_iff hn hs).1
        (hkeys ▸ List.mem_cons_self : first ∈ s.methods.keys)
      have hnames := (RelationMethod.mem_apiNames.1 hapi).imp_right And.right
      have hbefore := hfirst _ (List.mem_of_ne_of_mem (Ne.symm hne) hdefault)
      exact String.lt_irrefl _
        (String.lt_trans hbefore (RelationMethod.lt_of_mem_apiNames hnames hlt hne))

end Registry

end AngularClient
