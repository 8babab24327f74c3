import AngularClient.Proofs.Json.Record
import AngularClient.Registry.Reader
import AngularClient.Registry.Writer

namespace AngularClient

open Dictionary (given)

@[simp] theorem Json.given_memberIfSome (key : String) (value : Option Json) (name : String) :
    given (Json.memberIfSome key value) name = if key = name then value.toList else [] := by
  cases value with
  | none => simp [Json.memberIfSome]
  | some j => simp [Json.memberIfSome]

namespace Document

variable {α : Type} {xs : List α} {item : Document → Option α} {write : α → Json}

theorem list?_ofJson (h : ∀ x ∈ xs, item (ofJson (write x)) = some x) :
    list? item (ofJson (.array (xs.map write))) = some xs := by
  rw [ofJson, ofItems_eq_map, list?, mapM_eq_some_iff, List.map_map, List.forall₂_map_left_iff,
    List.forall₂_same]
  exact h

@[simp] theorem string?_ofJson (s : String) : string? (ofJson (.string s)) = some s := rfl

end Document

open Document (exists_record?_ofMembers)

@[simp] theorem ParameterSource.ofName?_name (s : ParameterSource) : ofName? s.name = some s := by
  cases s <;> rfl

@[simp] theorem ParameterHttp.ofDocument?_toJson (h : ParameterHttp) :
    ofDocument? (.ofJson h.toJson) = some h := by
  obtain ⟨fields, hfields, hlookup⟩ := exists_record?_ofMembers [["source"]] (by decide)
    [("source", .optional (h.source.map (·.name)))]
  have hsource : fields.optional "source" ParameterSource.ofDocument? = some h.source := by
    rw [Document.Fields.optional, Document.Fields.withDefault, hlookup "source" (by decide)]
    cases h.source with
    | none => rfl
    | some s => exact congrArg (Option.map some) s.ofName?_name
  rw [ofDocument?, toJson, hfields]
  simp [hsource]

namespace Description

theorem toJson_ne_null (d : Description) : d.toJson ≠ .null := by
  cases d <;> simp [toJson, Json.strings]

theorem ofDocument?_toJson (d : Description) : ofDocument? (.ofJson d.toJson) = some d := by
  cases d with
  | text s => rfl
  | lines ls =>
    have hlines : Document.list? Document.string? (.ofJson (.strings ls)) = some ls :=
      Document.list?_ofJson fun s _ => Document.string?_ofJson s
    change (Document.list? Document.string? (.ofJson (.strings ls))).map lines = _
    rw [hlines, Option.map_some]

end Description

@[simp]
theorem Endpoint.ofDocument?_toJson (e : Endpoint) : ofDocument? (.ofJson e.toJson) = some e := by
  obtain ⟨fields, hfields, hlookup⟩ := exists_record?_ofMembers [["verb"], ["fullPath"]] (by decide)
    [("verb", .string e.verb), ("fullPath", .string e.fullPath)]
  rw [ofDocument?, toJson, hfields]
  simp [Document.Fields.required_eq, hlookup]

@[simp] theorem HttpBinding.ofDocument?_toJson (b : HttpBinding) :
    ofDocument? (.ofJson b.toJson) = some b := by
  obtain ⟨fields, hfields, hlookup⟩ := exists_record?_ofMembers fieldNames (by decide) <|
    Json.memberIfSome "endpoints" (b.endpoints.map fun es => .array (es.map (·.toJson)))
      ++ Json.memberIfSome "verb" (b.verb.map .string)
      ++ Json.memberIfSome "fullPath" (b.fullPath.map .string)
  have hendpoints : fields.optional "endpoints" (Document.list? Endpoint.ofDocument?) =
      some b.endpoints := by
    refine Document.Fields.optional_of_lookup (fun es => .array (es.map (·.toJson))) ?_
      fun es _ => ⟨Json.noConfusion, Document.list?_ofJson fun e _ => e.ofDocument?_toJson⟩
    rw [hlookup "endpoints" (by decide)]
    simp
  have hstring {name : String} {x : Option String}
      (h : fields.lookup name = (x.map Json.string).map Document.ofJson) :
      fields.optional name Document.string? = some x :=
    Document.Fields.optional_of_lookup .string h fun s _ => ⟨Json.noConfusion, rfl⟩
  have hverb : fields.optional "verb" Document.string? = some b.verb := by
    apply hstring
    rw [hlookup "verb" (by decide)]
    simp
  have hfullPath : fields.optional "fullPath" Document.string? = some b.fullPath := by
    apply hstring
    rw [hlookup "fullPath" (by decide)]
    simp
  rw [ofDocument?, toJson, hfields]
  simp [ofFields?, hendpoints, hverb, hfullPath]

namespace Parameter

variable {d : Document} {p : Parameter}

theorem type_of_ofDocument? (h : ofDocument? d = some p) : ∀ j ∈ p.type, j.Ordered ∧ j ≠ .null := by
  rw [ofDocument?, Option.bind_eq_bind] at h
  obtain ⟨fields, -, h⟩ := Option.bind_eq_some_iff.1 h
  obtain ⟨_, -, h⟩ := Option.bind_eq_some_iff.1 h
  obtain ⟨type, htype, h⟩ := Option.bind_eq_some_iff.1 h
  obtain ⟨_, -, h⟩ := Option.bind_eq_some_iff.1 h
  obtain ⟨_, -, h⟩ := Option.bind_eq_some_iff.1 h
  obtain ⟨_, -, h⟩ := Option.bind_eq_some_iff.1 h
  cases h
  rintro j rfl
  rw [Document.Fields.optional, Document.Fields.withDefault] at htype
  cases hlookup : fields.lookup "type" with
  | none =>
    rw [hlookup] at htype
    cases htype
  | some t =>
    rw [hlookup] at htype
    change Document.nullable? _ t = _ at htype
    unfold Document.nullable? at htype
    split at htype
    · cases htype
    · next hnull =>
      obtain ⟨j', hj, h⟩ := Option.map_eq_some_iff.1 htype
      cases h
      refine ⟨Document.ordered_of_toJson? t hj, ?_⟩
      rintro rfl
      exact hnull (Document.toJson?_eq_null_iff.1 hj)

theorem ofDocument?_toJson (htype : ∀ j ∈ p.type, j.Ordered ∧ j ≠ .null) :
    ofDocument? (.ofJson p.toJson) = some p := by
  obtain ⟨fields, hfields, hlookup⟩ := exists_record?_ofMembers
    [["arg"], ["type"], ["required"], ["description"], ["http"]] (by decide) <|
    [("arg", .string p.name), ("type", p.type.getD .null), ("required", .bool p.required)]
      ++ Json.memberIfSome "description" (p.description.map (·.toJson))
      ++ Json.memberIfSome "http" (p.http.map (·.toJson))
  have hname : fields.lookup "arg" = some (.string p.name) := by
    rw [hlookup "arg" (by decide)]
    simp [Document.ofJson]
  have hrequired : fields.lookup "required" = some (.bool p.required) := by
    rw [hlookup "required" (by decide)]
    simp [Document.ofJson]
  have hdescription : fields.optional "description" Description.ofDocument? =
      some p.description := by
    refine Document.Fields.optional_of_lookup Description.toJson ?_
      fun d _ => ⟨d.toJson_ne_null, d.ofDocument?_toJson⟩
    rw [hlookup "description" (by decide)]
    simp
  have hhttp : fields.optional "http" ParameterHttp.ofDocument? = some p.http := by
    refine Document.Fields.optional_of_lookup ParameterHttp.toJson ?_
      fun h _ => ⟨Json.noConfusion, h.ofDocument?_toJson⟩
    rw [hlookup "http" (by decide)]
    simp
  have htype' : fields.optional "type" Document.toJson? = some p.type := by
    cases hp : p.type with
    | none =>
      have hnull : fields.lookup "type" = some .null := by
        rw [hlookup "type" (by decide)]
        simp [hp, Document.ofJson]
      rw [Document.Fields.optional, Document.Fields.withDefault, hnull]
      rfl
    | some j =>
      refine Document.Fields.optional_of_lookup id ?_ fun a ha => ?_
      · rw [hlookup "type" (by decide)]
        simp [hp]
      · obtain ⟨hordered, hnull⟩ := htype a (hp ▸ ha)
        exact ⟨hnull, Document.toJson?_ofJson a hordered⟩
  rw [ofDocument?, toJson, hfields]
  simp [Document.Fields.required_eq, Document.Fields.withDefault, hname, hrequired, hdescription,
    hhttp, htype', Document.string?, Document.bool?]

end Parameter

end AngularClient
