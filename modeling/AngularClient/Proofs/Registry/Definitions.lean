import AngularClient.Proofs.Registry.References

namespace AngularClient

open Dictionary (given)
open Document (HasValues)

theorem Document.exists_hasValues {ms : List (String × Document)}
    (h : ∀ e ∈ ms, ∃ j, e.2.toJson? = some j) : ∃ js, HasValues ms js := by
  apply exists_forall₂_of_forall
  intro e he
  obtain ⟨j, hj⟩ := h e he
  exact ⟨(e.1, j), rfl, hj⟩

namespace PropertyDefinition

inductive TypeFrom : List Document → Option PropertyType → Prop
  | missing : TypeFrom [] none
  | null : TypeFrom [.null] none
  | given {t : Document} {type : PropertyType} (hnull : t ≠ .null)
      (h : PropertyType.ReadFrom t type) : TypeFrom [t] (some type)

variable {d : Document} {p : PropertyDefinition} {members : List (String × Document)}
  {js entries : List (String × Json)} {fields : Document.Fields} {type : Option PropertyType}
  {key : String}

theorem TypeFrom.length_le {ts : List Document} (h : TypeFrom ts type) : ts.length ≤ 1 := by
  cases h <;> simp

theorem typeFrom_some_iff {t : Document} {type : PropertyType} :
    TypeFrom [t] (some type) ↔ t ≠ .null ∧ PropertyType.ReadFrom t type := by
  constructor
  · intro h
    cases h with
    | given hnull h => exact ⟨hnull, h⟩
  · rintro ⟨hnull, h⟩
    exact .given hnull h

theorem optional_type_eq_some_iff :
    fields.optional "type" PropertyType.ofDocument? = some type ↔
      TypeFrom (fields.lookup "type").toList type := by
  rw [Document.Fields.optional, Document.Fields.withDefault]
  cases fields.lookup "type" with
  | none =>
    constructor
    · intro h
      cases h
      exact .missing
    · intro h
      cases h
      rfl
  | some t =>
    change Document.nullable? _ t = _ ↔ TypeFrom [t] type
    unfold Document.nullable?
    split
    · constructor
      · intro h
        cases h
        exact .null
      · intro h
        cases h with
        | null => rfl
        | given hnull => exact absurd rfl hnull
    · next hnull =>
      rw [Option.map_eq_some_iff]
      constructor
      · rintro ⟨type, h, rfl⟩
        exact .given hnull (PropertyType.ofDocument?_eq_some_iff.1 h)
      · intro h
        cases h with
        | null => exact absurd rfl hnull
        | given _ h => exact ⟨_, PropertyType.ofDocument?_eq_some_iff.2 h, rfl⟩

theorem ofDocument?_eq_some_iff : ofDocument? d = some p ↔
    ∃ members js, d.members? = some members ∧ TypeFrom (given members "type") p.type ∧
      HasValues (members.filter fun e => decide (e.1 ≠ "type")) js ∧
        p.extra = Dictionary.ofList js := by
  rw [ofDocument?, Option.bind_eq_bind, Option.bind_eq_some_iff]
  apply exists_congr
  intro members
  rw [exists_and_left]
  apply and_congr_right
  intro _
  have hfields (type : Option PropertyType) : (∃ fields,
      Document.fieldsOf? [["type"]] members = some fields ∧
        TypeFrom (fields.lookup "type").toList type) ↔
      ∃ x : Option Document, given members "type" = x.toList ∧ TypeFrom x.toList type :=
    Document.exists_fieldsOf?_singleton_iff (p := fun x => TypeFrom x.toList type)
  constructor
  · intro h
    obtain ⟨fields, hgiven, h⟩ := Option.bind_eq_some_iff.1 h
    obtain ⟨js, hjs, h⟩ := Option.bind_eq_some_iff.1 h
    obtain ⟨type, htype, h⟩ := Option.bind_eq_some_iff.1 h
    cases h
    obtain ⟨x, hx, htype⟩ := (hfields _).1 ⟨fields, hgiven, optional_type_eq_some_iff.1 htype⟩
    exact ⟨js, hx ▸ htype, Document.mapM_toJson?_eq_some_iff.1 hjs, rfl⟩
  · rintro ⟨js, htype, hjs, hextra⟩
    have hx := Dictionary.given_eq_find? htype.length_le
    obtain ⟨fields, hgiven, htype⟩ := (hfields _).2 ⟨_, hx, hx ▸ htype⟩
    refine Option.bind_eq_some_iff.2 ⟨fields, hgiven, Option.bind_eq_some_iff.2 ⟨js, ?_, ?_⟩⟩
    · exact Document.mapM_toJson?_eq_some_iff.2 hjs
    · rw [optional_type_eq_some_iff.2 htype, ← hextra]
      rfl

theorem find?_extra (hjs : HasValues (members.filter fun e => decide (e.1 ≠ "type")) js)
    (hextra : p.extra = Dictionary.ofList js) (key : String) : p.extra.find? key =
      if key = "type" then none else (given members key).getLast?.bind Document.toJson? := by
  rw [hextra, hjs.find?, Dictionary.given_filter fun k => decide (k ≠ "type")]
  by_cases hkey : key = "type"
  · simp [hkey]
  · simp [hkey]

theorem TypeFrom.exists_toJson? {ts : List Document} (h : TypeFrom ts type) :
    ∀ t ∈ ts, ∃ j, t.toJson? = some j := by
  cases h with
  | missing => exact nofun
  | null =>
    rintro t ht
    rw [List.mem_singleton.1 ht]
    exact ⟨.null, rfl⟩
  | given _ h =>
    intro t ht
    obtain rfl := List.mem_singleton.1 ht
    cases h with
    | name ht => exact ⟨_, Document.toJson?_eq_string_iff.2 ht⟩
    | composite ht => exact ⟨_, ht⟩
    | classRef ht _ => exact ⟨_, ht⟩
    | other ht _ _ _ => exact ⟨_, ht⟩

theorem exists_toJson? (hmembers : d.members? = some members)
    (htype : TypeFrom (given members "type") type)
    (hjs : HasValues (members.filter fun e => decide (e.1 ≠ "type")) js) :
    ∃ entries, d.toJson? = some (.object entries) ∧ Dictionary.Sorted entries ∧
      ∀ key, Dictionary.find? entries key =
        (given members key).getLast?.bind Document.toJson? := by
  have hvalues : ∀ e ∈ members, ∃ j, e.2.toJson? = some j := by
    intro e he
    by_cases hkey : e.1 = "type"
    · refine htype.exists_toJson? e.2 ?_
      exact List.mem_map_of_mem (List.mem_filter.2 ⟨he, by simpa using hkey⟩)
    · have hmem : e ∈ members.filter fun e => decide (e.1 ≠ "type") :=
        List.mem_filter.2 ⟨he, by simpa using hkey⟩
      obtain ⟨e', -, -, hj⟩ := exists_of_mem_of_forall₂ hjs hmem
      exact ⟨e'.2, hj⟩
  obtain ⟨all, hall⟩ := Document.exists_hasValues hvalues
  exact ⟨_, Document.toJson?_eq_object_iff.2 ⟨members, all, hmembers, hall, rfl⟩,
    Dictionary.sorted_ofList all, hall.find?⟩

end PropertyDefinition

end AngularClient
