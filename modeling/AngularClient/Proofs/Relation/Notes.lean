import AngularClient.Proofs.Relation.AccessorNames
import AngularClient.Proofs.Relation.Homonyms

/-! The notes that say which accessor to use in place of a method.  The note of a twin is made from
that of its reverse method by making the first `create` of the whole sentence into `createMany`.  It
names the accessor of the twin unless the name of the model, which stands in front, mentions
`create`. -/

namespace AngularClient

def accessorNote (display api : String) : String := s!"Use {display}.{api}() instead."

def ModelSet.NamesAccessor (set : ModelSet) (note : String) : Prop :=
  ∃ m ∈ set, ∃ e ∈ m.resolvedScopes, ∃ api ∈ e.2.methods.keys, note = accessorNote m.name api

instance (set : ModelSet) (note : String) : Decidable (set.NamesAccessor note) :=
  inferInstanceAs <| Decidable
    (∃ m ∈ set, ∃ e ∈ m.resolvedScopes, ∃ api ∈ e.2.methods.keys, note = accessorNote m.name api)

section AccessorNote

variable {display api : String}

theorem toList_accessorNote : (accessorNote display api).toList =
    "Use".toList ++ ' ' :: (display.toList ++ '.' ::
      (api.toList ++ '(' :: ") instead.".toList)) := by
  have hparts : accessorNote display api = "Use " ++ display ++ "." ++ api ++ "() instead." := rfl
  rw [hparts]
  simp

theorem toCreateMany_accessorNote : toCreateMany (accessorNote display api) =
    if mentionsCreate display then accessorNote (toCreateMany display) api
    else accessorNote display (toCreateMany api) := by
  have hapi : Text.replaceFirst "create".toList "createMany".toList
      (api.toList ++ '(' :: ") instead.".toList) =
        (toCreateMany api).toList ++ '(' :: ") instead.".toList := by
    rw [toList_toCreateMany]
    by_cases h : "create".toList <:+: api.toList
    · rw [Text.replaceFirst_append unbordered_create create_ne_nil h]
    · rw [Text.replaceFirst_append_cons unbordered_create create_ne_nil (by decide) h,
        Text.replaceFirst_of_absent h]
      rfl
  rw [← String.toList_inj, toList_toCreateMany, toList_accessorNote,
    Text.replaceFirst_append_cons unbordered_create create_ne_nil (by decide) (by decide)]
  split
  · next h =>
    rw [Text.replaceFirst_append unbordered_create create_ne_nil (mentionsCreate_iff.1 h),
      toList_accessorNote, toList_toCreateMany]
  · next h =>
    rw [Text.replaceFirst_append_cons unbordered_create create_ne_nil (by decide)
      (mt mentionsCreate_iff.2 h), hapi, toList_accessorNote]

end AccessorNote

namespace Source

variable {p q : Source} {note : String}

def notes (p : Source) : List String :=
  p.rel.note p.model.name ::
    if mentionsCreate p.reverseName then [toCreateMany (p.rel.note p.model.name)] else []

@[simp]
theorem map_internal_reverses (p : Source) : p.reverses.map (·.internal) = p.notes.map some := by
  have hname : p.rel.reverseName p.model.declaredName = p.reverseName := rfl
  simp only [reverses, RelationMethod.reverses, hname, notes]
  split <;> rfl

theorem mem_notes_iff : note ∈ p.notes ↔ ∃ y ∈ p.reverses, y.internal = some note := by
  rw [← List.mem_map (f := Method.internal), map_internal_reverses]
  simp

theorem mem_notes : note ∈ p.notes ↔ note = p.rel.note p.model.name ∨
    mentionsCreate p.reverseName = true ∧ note = toCreateMany (p.rel.note p.model.name) := by
  simp [notes]

theorem Shown.notes (h : p.Shown q) : q.notes = p.notes := by
  rw [Source.notes, Source.notes, h.reverseName, h.rel, h.name]

end Source

namespace Registry

variable {r : Registry} {o : Options} {p : Source} {note target : String}

theorem exists_source_of_note {n : Model} {y : Method} (hn : n ∈ r.describe o)
    (hy : y ∈ n.methods) (hnote : y.internal = some note) :
    ∃ target, ∃ p ∈ (r.unresolved o).sources r o target, note ∈ p.notes := by
  obtain ⟨m, hm, h⟩ := exists_unresolved_of_mem hn
  rw [h.methods, ModelSet.reversesFor_eq, List.mem_append] at hy
  rcases hy with hy | hy
  · obtain ⟨k, hk⟩ := List.getElem?_of_mem hy
    rw [Model.getElem?_ownMethods, Option.map_eq_some_iff] at hk
    obtain ⟨x, hx, rfl⟩ := hk
    rw [if_pos (List.getElem?_eq_some_iff.1 hx).1, Model.marked] at hnote
    cases ha : m.attachment? r o (r.unresolved o) k with
    | none =>
      rw [ha, (fresh_unresolved r o).unmarked m hm x (List.mem_of_getElem? hx)] at hnote
      cases hnote
    | some a =>
      rw [ha] at hnote
      refine ⟨a.target.name, ⟨m, a.rel, a.method⟩, ?_, ?_⟩
      · exact ModelSet.mem_sources.2 ⟨hm, k, a, ha, rfl, rfl, rfl⟩
      · exact Source.mem_notes.2 (.inl (Option.some.inj hnote).symm)
  · obtain ⟨p, hp, hy⟩ := List.mem_flatMap.1 hy
    exact ⟨m.name, p, hp, Source.mem_notes_iff.2 ⟨y, hy, hnote⟩⟩

theorem exists_method_of_source (hp : p ∈ (r.unresolved o).sources r o target) :
    ∃ n ∈ r.describe o, n.name = target ∧ ∀ y ∈ p.reverses, y ∈ n.methods := by
  obtain ⟨hm, k, a, ha, rfl, -, -⟩ := ModelSet.mem_sources.1 hp
  obtain ⟨c, -, hfind⟩ := Option.bind_eq_some_iff.1 (Model.attachment?_eq_some_iff.1 ha).2.2.1
  obtain ⟨n, hn, h⟩ := exists_described_of_mem (List.mem_of_find?_eq_some hfind)
  refine ⟨n, hn, h.name, ?_⟩
  intro y hy
  rw [h.methods, ModelSet.reversesFor_eq, List.mem_append, List.mem_flatMap]
  exact .inr ⟨p, hp, hy⟩

theorem exists_note_iff : (∃ n ∈ r.describe o, ∃ y ∈ n.methods, y.internal = some note) ↔
    ∃ target p, Source.LeadsTo (r.describe o) target p ∧ note ∈ p.notes := by
  constructor
  · rintro ⟨n, hn, y, hy, hnote⟩
    obtain ⟨target, p, hp, hmem⟩ := exists_source_of_note hn hy hnote
    obtain ⟨q, hq, hshown⟩ := exists_leadsTo hp
    exact ⟨target, q, hq, by rwa [hshown.notes]⟩
  · rintro ⟨target, q, hq, hmem⟩
    obtain ⟨p, hp, hshown⟩ := exists_source hq
    rw [hshown.notes, Source.mem_notes_iff] at hmem
    obtain ⟨y, hy, hnote⟩ := hmem
    obtain ⟨n, hn, -, hreverses⟩ := exists_method_of_source hp
    exact ⟨n, hn, y, hreverses y hy, hnote⟩

theorem namesAccessor_of_leadsTo (hp : p.LeadsTo (r.describe o) target) {api : String}
    (hapi : api ∈ p.rel.apiNames p.model.declaredName) :
    (r.describe o).NamesAccessor (accessorNote p.model.name api) := by
  obtain ⟨s, hs, -⟩ := Option.map_eq_some_iff.1 hp.target
  have hmem := Model.mem_resolvedScopes_of_scope? hs
  refine ⟨p.model, hp.model, (p.rel.scope, s), hmem, api, ?_, rfl⟩
  exact (mem_keys_iff hp.model hmem).2 ⟨p.method, hp.method, p.rel, hp.parsed, hp.marked, rfl, hapi⟩

/-- Every note points to an accessor just if those do that twins have in models whose name mentions
`create`: these point to the accessor of the reverse method in a model of another name. -/
theorem notes_name_accessors_iff (r : Registry) (o : Options) :
    (∀ n ∈ r.describe o, ∀ y ∈ n.methods, ∀ note, y.internal = some note →
      (r.describe o).NamesAccessor note) ↔
    ∀ target p, Source.LeadsTo (r.describe o) target p → mentionsCreate p.reverseName = true →
      mentionsCreate p.model.name = true →
        (r.describe o).NamesAccessor (accessorNote (toCreateMany p.model.name) p.rel.apiName) := by
  have hmany (p : Source) : toCreateMany (p.rel.note p.model.name) =
      if mentionsCreate p.model.name then accessorNote (toCreateMany p.model.name) p.rel.apiName
      else accessorNote p.model.name (toCreateMany p.rel.apiName) :=
    toCreateMany_accessorNote
  constructor
  · intro hall target p hp hreverse hdisplay
    have htwin : toCreateMany (p.rel.note p.model.name) ∈ p.notes :=
      Source.mem_notes.2 (.inr ⟨hreverse, rfl⟩)
    obtain ⟨n, hn, y, hy, hnote⟩ := exists_note_iff.2 ⟨target, p, hp, htwin⟩
    have hnames := hall n hn y hy _ hnote
    rwa [hmany, if_pos hdisplay] at hnames
  · intro hall n hn y hy note hnote
    obtain ⟨target, p, hp, hmem⟩ := exists_note_iff.1 ⟨n, hn, y, hy, hnote⟩
    rcases Source.mem_notes.1 hmem with rfl | ⟨hreverse, rfl⟩
    · exact namesAccessor_of_leadsTo hp (RelationMethod.mem_apiNames.2 (.inl rfl))
    · rw [hmany]
      split
      · next hdisplay => exact hall target p hp hreverse hdisplay
      · exact namesAccessor_of_leadsTo hp (RelationMethod.mem_apiNames.2 (.inr ⟨hreverse, rfl⟩))

def recreates : Registry where
  remotingVersion := 3
  classes := [
    { name := "recreate"
      ctor := some ⟨none⟩
      description := none
      httpPath := none
      prototypeChain := []
      relations := [("parts", ⟨some "recreate", none⟩)]
      exposedMethods := none
      methods := [.served "prototype.__create__parts" "/recreates/:id/parts"]
      properties := [] }]

theorem notes_name_accessors_iff_recreates :
    ¬ ∀ n ∈ recreates.describe .default, ∀ y ∈ n.methods, ∀ note, y.internal = some note →
      (recreates.describe .default).NamesAccessor note := by
  rw [notes_name_accessors_iff]
  intro hall
  have hn := List.getElem?_eq_getElem (l := recreates.describe .default) (i := 0) (by decide)
  have hy := List.getElem?_eq_getElem (l := (recreates.describe .default)[0].methods) (i := 0)
    (by decide)
  have hp : Source.LeadsTo (recreates.describe .default) "Recreate"
      ⟨(recreates.describe .default)[0], ⟨"create", "parts"⟩,
        (recreates.describe .default)[0].methods[0]⟩ :=
    ⟨List.mem_of_getElem? hn, List.mem_of_getElem? hy, by decide, by decide, by decide⟩
  exact absurd (hall _ _ hp (by decide) (by decide)) (by decide)

example : ((recreates.describe .default).flatMap fun m => m.methods.map (·.internal)) =
    [some "Use Recreate.parts.create() instead.", some "Use Recreate.parts.create() instead.",
      some "Use RecreateMany.parts.create() instead."] := by decide

end Registry

end AngularClient
