import AngularClient.Proofs.Registry.Definitions
import AngularClient.Proofs.Registry.Repeated
import AngularClient.Proofs.Registry.Written

namespace AngularClient

open Dictionary (given)
open Document (HasValues members?_ofJson given_ofMembers)

def Survives {α : Type} (read : Document → Option α) (write : α → Json) (x : α) : Prop :=
  read (.ofJson (write x)) = some x

namespace ClassRef

variable (c : ClassRef)

theorem ordered_toJson : c.toJson.Ordered := by
  have hmodel : (Json.optional c.modelName).Ordered := by
    cases c.modelName with
    | none => exact .null
    | some m => exact .string m
  refine Json.ordered_ofMembers ?_
  rw [List.forall_mem_cons, List.forall_mem_singleton]
  exact ⟨hmodel, .string c.name⟩

theorem spelledBy_toJson : c.SpelledBy (.ofJson c.toJson) := by
  refine .object (members?_ofJson _) ?_ ?_
  · rw [given_ofMembers]
    cases c.modelName with
    | none => exact .null
    | some m => exact .string m
  · rw [given_ofMembers]
    rfl

end ClassRef

namespace PropertyType

variable {t : Document} {type : PropertyType}

theorem refersTo_toJson (c : ClassRef) : (Document.ofJson (classRef c).toJson).RefersTo c :=
  ⟨_, _, members?_ofJson _, given_ofMembers [("$class", c.toJson)] "$class", c.spelledBy_toJson⟩

theorem ReadFrom.ordered_toJson (h : ReadFrom t type) : type.toJson.Ordered := by
  cases h with
  | name => exact .string _
  | composite ht => exact Document.ordered_of_toJson? t ht
  | @classRef _ c => exact Json.ordered_ofMembers (List.forall_mem_singleton.2 c.ordered_toJson)
  | other ht => exact Document.ordered_of_toJson? t ht

theorem ReadFrom.toJson_ne_null (h : ReadFrom t type) (ht : t ≠ .null) : type.toJson ≠ .null := by
  cases h with
  | name => exact Json.noConfusion
  | composite => exact Json.noConfusion
  | classRef => exact Json.noConfusion
  | @other j hj =>
    intro hnull
    change j = .null at hnull
    rw [hnull] at hj
    exact ht (Document.toJson?_eq_null_iff.1 hj)

theorem ReadFrom.ofJson_iff (h : ReadFrom t type) :
    ReadFrom (.ofJson type.toJson) type ↔ ¬ t.HidesReference := by
  have hordered := Document.toJson?_ofJson _ h.ordered_toJson
  cases h with
  | name ht =>
    have hj := Document.toJson?_eq_string_iff.2 ht
    exact iff_of_true (.name rfl)
      (Document.not_hidesReference_of_toJson? hj fun _ => Json.noConfusion)
  | composite ht =>
    exact iff_of_true (.composite hordered)
      (Document.not_hidesReference_of_toJson? ht fun _ => Json.noConfusion)
  | @classRef j c ht hc =>
    exact iff_of_true (.classRef hordered (refersTo_toJson c)) fun hidden => hidden.1 c hc
  | @other j ht hstring harray hnone =>
    constructor
    · rintro h ⟨-, j', c, hj', hc⟩
      obtain rfl := Option.some.inj (ht.symm.trans hj')
      cases h with
      | other _ _ _ hnone' => exact hnone' c hc
    · intro h
      exact .other hordered hstring harray fun c hc => h ⟨hnone, j, c, ht, hc⟩

theorem survives_iff (h : ofDocument? t = some type) :
    Survives ofDocument? toJson type ↔ ¬ t.HidesReference := by
  rw [Survives, ofDocument?_eq_some_iff]
  exact (ofDocument?_eq_some_iff.1 h).ofJson_iff

theorem composite_of_toJson? {values : List Json} (ht : t.toJson? = some (.array values)) :
    ofDocument? t = some (.composite values) ∧
      Survives ofDocument? toJson (.composite values) := by
  have hread := ofDocument?_eq_some_iff.2 (.composite ht)
  exact ⟨hread, (survives_iff hread).2
    (Document.not_hidesReference_of_toJson? ht fun _ => Json.noConfusion)⟩

theorem classRef_of_refersTo {j : Json} {c : ClassRef} (ht : t.toJson? = some j)
    (hc : t.RefersTo c) :
    ofDocument? t = some (.classRef c) ∧ Survives ofDocument? toJson (.classRef c) := by
  have hread := ofDocument?_eq_some_iff.2 (.classRef ht hc)
  exact ⟨hread, (survives_iff hread).2 fun hidden => hidden.1 c hc⟩

theorem exists_classRef_iff {j : Json} (ht : t.toJson? = some j)
    (h : ofDocument? t = some (.other j)) :
    (∃ c, ofDocument? (.ofJson j) = some (.classRef c)) ↔ t.HidesReference := by
  cases ofDocument?_eq_some_iff.1 h with
  | other _ _ _ hnone =>
    constructor
    · rintro ⟨c, hc⟩
      cases ofDocument?_eq_some_iff.1 hc with
      | classRef _ hc => exact ⟨hnone, j, c, ht, hc⟩
    · rintro ⟨-, j', c, hj', hc⟩
      obtain rfl := Option.some.inj (ht.symm.trans hj')
      have hj := Document.toJson?_ofJson j (Document.ordered_of_toJson? t ht)
      exact ⟨c, ofDocument?_eq_some_iff.2 (.classRef hj hc)⟩

end PropertyType

namespace PropertyDefinition

variable {d : Document} {p : PropertyDefinition} {members : List (String × Document)}

theorem TypeFrom.ofJson_iff {ts : List Document} {type : Option PropertyType}
    (h : TypeFrom ts type) :
    TypeFrom ((type.map (·.toJson)).map Document.ofJson).toList type ↔
      ∀ t ∈ ts, ¬ t.HidesReference := by
  cases h with
  | missing => exact iff_of_true .missing nofun
  | null =>
    refine iff_of_true .missing (List.forall_mem_singleton.2 ?_)
    exact Document.not_hidesReference_of_toJson? rfl fun _ => Json.noConfusion
  | @given t type hnull h =>
    have hwritten : Document.ofJson type.toJson ≠ .null := fun h' =>
      h.toJson_ne_null hnull (Document.ofJson_eq_null_iff.1 h')
    rw [List.forall_mem_singleton, ← h.ofJson_iff]
    exact typeFrom_some_iff.trans (and_iff_right hwritten)

def written (p : PropertyDefinition) : List (String × Document) :=
  (Dictionary.ofList (Json.memberIfSome "type" (p.type.map (·.toJson)) ++ p.extra)).map
    fun e => (e.1, .ofJson e.2)

@[simp] theorem members?_toJson (p : PropertyDefinition) :
    (Document.ofJson p.toJson).members? = some p.written := members?_ofJson _

section Written

variable (hsorted : p.extra.Sorted) (hnone : p.extra.find? "type" = none)
include hsorted hnone

@[simp] theorem given_type_written :
    given p.written "type" = ((p.type.map (·.toJson)).map Document.ofJson).toList := by
  rw [written, given_ofMembers, Dictionary.given_append, hsorted.given, hnone]
  simp

@[simp] theorem filter_written : (p.written.filter fun e => decide (e.1 ≠ "type")) =
    p.extra.map fun e => (e.1, .ofJson e.2) := by
  rw [written, List.filter_map]
  congr 1
  refine ((Dictionary.sorted_ofList _).filter _).ext hsorted fun key => ?_
  change Dictionary.find? (List.filter (fun e => decide (e.1 ≠ "type")) _) key = _
  rw [Dictionary.find?_eq_head?_given, Dictionary.given_filter fun k => decide (k ≠ "type")]
  by_cases hkey : key = "type"
  · simp [hkey, hnone]
  · rw [if_pos (by simpa using hkey), ← Dictionary.find?_eq_head?_given, Dictionary.find?_ofList,
      Dictionary.given_append, Json.given_memberIfSome, if_neg (Ne.symm hkey), List.nil_append,
      hsorted.given, Dictionary.getLast?_toList]

end Written

theorem survives_iff (h : ofDocument? d = some p) : ∃ members, d.members? = some members ∧
    (Survives ofDocument? toJson p ↔ ∀ t ∈ given members "type", ¬ t.HidesReference) := by
  obtain ⟨members, js, hmembers, htype, hjs, hextra⟩ := ofDocument?_eq_some_iff.1 h
  have hsorted : p.extra.Sorted := hextra ▸ Dictionary.sorted_ofList js
  have hnone : p.extra.find? "type" = none := (find?_extra hjs hextra "type").trans (if_pos rfl)
  have hordered : ∀ e ∈ p.extra, e.2.Ordered := fun e he =>
    Document.ordered_of_hasValues hjs e (Dictionary.mem_of_mem_ofList (hextra ▸ he))
  refine ⟨members, hmembers, ?_⟩
  rw [Survives, ofDocument?_eq_some_iff, ← htype.ofJson_iff, ← given_type_written hsorted hnone]
  constructor
  · rintro ⟨members', js', hmembers', htype', -, -⟩
    obtain rfl := Option.some.inj (p.members?_toJson.symm.trans hmembers')
    exact htype'
  · intro htype'
    refine ⟨p.written, p.extra, p.members?_toJson, htype', ?_, hsorted.ofList.symm⟩
    rw [filter_written hsorted hnone]
    exact Document.hasValues_map_ofJson hordered

end PropertyDefinition

theorem Parameter.survives {d : Document} {p : Parameter} (h : ofDocument? d = some p) :
    Survives ofDocument? toJson p := ofDocument?_toJson (type_of_ofDocument? h)

namespace Registry

/-- Parameters and bindings survive, and so does a definition unless its type hides a reference.  A
type that is an array, or a reference in whatever form, is read as such and survives; a type that is
kept as it is turns into a reference exactly if it hides one, for which its document has to repeat a
key. -/
theorem values_survive :
    (∀ d p, Parameter.ofDocument? d = some p →
      Survives Parameter.ofDocument? Parameter.toJson p) ∧
    (∀ b, Survives HttpBinding.ofDocument? HttpBinding.toJson b) ∧
    (∀ d p, PropertyDefinition.ofDocument? d = some p → ∃ members, d.members? = some members ∧
      (Survives PropertyDefinition.ofDocument? PropertyDefinition.toJson p ↔
        ∀ t ∈ given members "type", ¬ t.HidesReference)) ∧
    ∀ t j, t.toJson? = some j →
      (∀ values, j = .array values → PropertyType.ofDocument? t = some (.composite values) ∧
        Survives PropertyType.ofDocument? PropertyType.toJson (.composite values)) ∧
      (∀ c, t.RefersTo c → PropertyType.ofDocument? t = some (.classRef c) ∧
        Survives PropertyType.ofDocument? PropertyType.toJson (.classRef c)) ∧
      (PropertyType.ofDocument? t = some (.other j) →
        ((∃ c, PropertyType.ofDocument? (.ofJson j) = some (.classRef c)) ↔ t.HidesReference)) ∧
      (t.HidesReference → t.RepeatsReference) := by
  refine ⟨fun _ _ => Parameter.survives, HttpBinding.ofDocument?_toJson,
    fun _ _ => PropertyDefinition.survives_iff, fun t j ht => ⟨?_, ?_, ?_, ?_⟩⟩
  · rintro values rfl
    exact PropertyType.composite_of_toJson? ht
  · exact fun c => PropertyType.classRef_of_refersTo ht
  · exact PropertyType.exists_classRef_iff ht
  · exact Document.HidesReference.repeats

def geoPoint : Document := .object [(some "$class", .array [.null, .string "GeoPoint"])]

def renamed : Document :=
  .object [(some "$class",
    .object [(some "name", .string "Point"), (some "name", .string "Place")])]

theorem geoPoint_refersTo : geoPoint.RefersTo { modelName := none, name := "GeoPoint" } :=
  ⟨_, _, rfl, rfl, .array .null⟩

theorem renamed_hidesReference : renamed.HidesReference := by
  constructor
  · intro c hc
    cases PropertyType.classRef?_eq_some_iff.2 hc
  · exact ⟨_, { modelName := none, name := "Place" }, rfl, PropertyType.classRef?_eq_some_iff.1 rfl⟩

theorem values_survive_points : ∃ p q j,
    Parameter.ofDocument? (.array [.string "at", .null, .bool true]) = some p ∧
    Survives Parameter.ofDocument? Parameter.toJson p ∧
    PropertyDefinition.ofDocument? (.object [(some "type", renamed)]) = some q ∧
    ¬ Survives PropertyDefinition.ofDocument? PropertyDefinition.toJson q ∧
    PropertyType.ofDocument? geoPoint =
      some (.classRef { modelName := none, name := "GeoPoint" }) ∧
    Survives PropertyType.ofDocument? PropertyType.toJson
      (.classRef { modelName := none, name := "GeoPoint" }) ∧
    PropertyType.ofDocument? (.array [.string "GeoPoint"]) =
      some (.composite [.string "GeoPoint"]) ∧
    PropertyType.ofDocument? renamed = some (.other j) ∧
    (∃ c, PropertyType.ofDocument? (.ofJson j) = some (.classRef c)) ∧
    renamed.RepeatsReference := by
  obtain ⟨p, hp⟩ : ∃ p,
      Parameter.ofDocument? (.array [.string "at", .null, .bool true]) = some p := ⟨_, rfl⟩
  obtain ⟨q, hq⟩ : ∃ q,
      PropertyDefinition.ofDocument? (.object [(some "type", renamed)]) = some q := ⟨_, rfl⟩
  obtain ⟨hparameters, -, hdefinitions, htypes⟩ := values_survive
  obtain ⟨hread, hsurvives⟩ := (htypes geoPoint _ rfl).2.1 _ geoPoint_refersTo
  obtain ⟨-, -, hother, hrepeats⟩ := htypes renamed _ rfl
  obtain ⟨members, hmembers, hq'⟩ := hdefinitions _ q hq
  refine ⟨p, q, _, hp, hparameters _ p hp, hq, ?_, hread, hsurvives,
    ((htypes (.array [.string "GeoPoint"]) _ rfl).1 _ rfl).1, rfl,
    (hother rfl).2 renamed_hidesReference, hrepeats renamed_hidesReference⟩
  intro h
  cases hmembers
  exact hq'.1 h renamed List.mem_cons_self renamed_hidesReference

theorem not_forall_definitions_survive : ¬ ∀ d p, PropertyDefinition.ofDocument? d = some p →
    Survives PropertyDefinition.ofDocument? PropertyDefinition.toJson p := by
  intro h
  cases h (.object [(some "type", renamed)]) _ rfl

end Registry

end AngularClient
