import AngularClient.Proofs.Json.Record
import AngularClient.Registry.Reader

namespace AngularClient

open Dictionary (given)

namespace Document

inductive Spells : Option String → List Document → Prop
  | missing : Spells none []
  | null : Spells none [.null]
  | string (s : String) : Spells (some s) [.string s]

variable {fields : Fields} {name s : String} {x : Option String}

theorem Spells.length_le {ds : List Document} (h : Spells x ds) : ds.length ≤ 1 := by
  cases h <;> simp

@[simp] theorem string?_eq_some_iff {d : Document} : string? d = some s ↔ d = .string s := by
  cases d <;> simp [string?]

@[simp] theorem required_string?_eq_some_iff :
    fields.required name string? = some s ↔ fields.lookup name = some (.string s) := by
  rw [Fields.required_eq, Option.bind_eq_some_iff]
  simp only [string?_eq_some_iff, exists_eq_right]

theorem optional_string?_eq_some_iff :
    fields.optional name string? = some x ↔ Spells x (fields.lookup name).toList := by
  rw [Fields.optional, Fields.withDefault]
  cases fields.lookup name with
  | none =>
    constructor
    · intro h
      cases h
      exact .missing
    · intro h
      cases h
      rfl
  | some d =>
    constructor
    · intro h
      cases d with
      | null => cases h; exact .null
      | string s => cases h; exact .string s
      | _ => cases h
    · intro h
      cases h <;> rfl

end Document

/-- A document that reads as a reference to a class, the name of the model before that of the
constructor.  None of the two may be given twice. -/
inductive ClassRef.SpelledBy (c : ClassRef) : Document → Prop
  | object {d : Document} {members : List (String × Document)} (hd : d.members? = some members)
      (hmodel : Document.Spells c.modelName (given members "modelName"))
      (hname : given members "name" = [.string c.name]) : SpelledBy c d
  | array {model : Document} (hmodel : Document.Spells c.modelName [model]) :
      SpelledBy c (.array [model, .string c.name])

def Document.RefersTo (t : Document) (c : ClassRef) : Prop :=
  ∃ members ref, t.members? = some members ∧ given members "$class" = [ref] ∧ c.SpelledBy ref

namespace ClassRef

open Document (Spells)

variable {c : ClassRef} {d : Document}

theorem ofDocument?_eq_some_iff_record : ofDocument? d = some c ↔
    ∃ fields, d.record? [["modelName"], ["name"]] = some fields ∧
      Spells c.modelName (fields.lookup "modelName").toList ∧
        fields.lookup "name" = some (.string c.name) := by
  rw [ofDocument?, Option.bind_eq_bind, Option.bind_eq_some_iff]
  apply exists_congr
  intro fields
  apply and_congr_right
  intro _
  rw [← Document.optional_string?_eq_some_iff, ← Document.required_string?_eq_some_iff]
  constructor
  · intro h
    obtain ⟨model, hmodel, h⟩ := Option.bind_eq_some_iff.1 h
    obtain ⟨name, hname, h⟩ := Option.bind_eq_some_iff.1 h
    cases h
    exact ⟨hmodel, hname⟩
  · rintro ⟨hmodel, hname⟩
    rw [hmodel, hname]
    rfl

theorem ofDocument?_eq_some_iff : ofDocument? d = some c ↔ c.SpelledBy d := by
  have hplain : ∀ ns ∈ [["modelName"], ["name"]], ns.length = 1 := by decide
  rw [ofDocument?_eq_some_iff_record]
  constructor
  · rintro ⟨fields, hfields, hmodel, hname⟩
    rcases Document.record?_eq_some_iff.1 hfields with ⟨items, rfl, hlength, rfl⟩ |
      ⟨members, hmembers, hfields⟩
    · match items, hlength with
      | [], _ => cases hname
      | [_], _ => cases hname
      | [model, name], _ =>
        obtain rfl := Option.some.inj hname
        exact .array hmodel
    · rw [← Document.given_of_fieldsOf? hplain hfields (by decide)] at hmodel
      have hgiven : given members "name" = (fields.lookup "name").toList :=
        Document.given_of_fieldsOf? hplain hfields (by decide)
      rw [hname] at hgiven
      exact .object hmembers hmodel hgiven
  · intro h
    cases h with
    | @object _ members hd hmodel hname =>
      have honce : ∀ name, [name] ∈ [["modelName"], ["name"]] →
          (given members name).length ≤ 1 := by
        intro name hmem
        simp only [List.mem_cons, List.cons.injEq, and_true, List.not_mem_nil, or_false] at hmem
        rcases hmem with rfl | rfl
        · exact hmodel.length_le
        · rw [hname, List.length_singleton]
      have hfields := (Document.fieldsOf?_eq_some_iff hplain).2 ⟨honce, rfl⟩
      refine ⟨_, Document.record?_eq_some_iff.2 (.inr ⟨members, hd, hfields⟩), ?_, ?_⟩
      · rwa [Document.given_of_fieldsOf? hplain hfields (by decide)] at hmodel
      · rw [Document.given_of_fieldsOf? hplain hfields (by decide)] at hname
        exact Option.toList_eq_singleton_iff.1 hname
    | array hmodel => exact ⟨_, rfl, hmodel, rfl⟩

end ClassRef

namespace PropertyType

variable {t : Document} {c : ClassRef} {type : PropertyType}

theorem classRef?_eq_some_iff : classRef? t = some c ↔ t.RefersTo c := by
  rw [classRef?, Option.bind_eq_bind, Option.bind_eq_some_iff, Document.RefersTo]
  apply exists_congr
  intro members
  rw [exists_and_left]
  apply and_congr_right
  intro _
  simp only [Option.bind_eq_some_iff, Document.Fields.required_eq]
  rw [Document.exists_fieldsOf?_singleton_iff
    (p := fun x => ∃ ref, x = some ref ∧ ClassRef.ofDocument? ref = some c)]
  constructor
  · rintro ⟨_, hgiven, ref, rfl, href⟩
    exact ⟨ref, hgiven, ClassRef.ofDocument?_eq_some_iff.1 href⟩
  · rintro ⟨ref, hgiven, href⟩
    exact ⟨some ref, hgiven, ref, rfl, ClassRef.ofDocument?_eq_some_iff.2 href⟩

inductive ReadFrom (t : Document) : PropertyType → Prop
  | name {s : String} (ht : t = .string s) : ReadFrom t (.name s)
  | composite {items : List Json} (ht : t.toJson? = some (.array items)) :
      ReadFrom t (.composite items)
  | classRef {j : Json} {c : ClassRef} (ht : t.toJson? = some j) (hc : t.RefersTo c) :
      ReadFrom t (.classRef c)
  | other {j : Json} (ht : t.toJson? = some j) (hstring : ∀ s, j ≠ .string s)
      (harray : ∀ items, j ≠ .array items) (hc : ∀ c, ¬ t.RefersTo c) : ReadFrom t (.other j)

theorem exists_object_of_refersTo {j : Json} (ht : t.toJson? = some j) (hc : t.RefersTo c) :
    ∃ entries, j = .object entries := by
  obtain ⟨members, -, hmembers, -⟩ := hc
  obtain ⟨js, -, rfl⟩ := Document.exists_toJson?_of_members? hmembers ht
  exact ⟨_, rfl⟩

theorem ofDocument?_eq_some_iff : ofDocument? t = some type ↔ ReadFrom t type := by
  rw [ofDocument?, Option.bind_eq_bind, Option.bind_eq_some_iff]
  constructor
  · rintro ⟨j, hj, h⟩
    split at h
    · cases h
      exact .name (Document.toJson?_eq_string_iff.1 hj)
    · cases h
      exact .composite hj
    · next j hstring harray =>
      cases hc : classRef? t with
      | some c =>
        rw [hc] at h
        cases h
        exact .classRef hj (classRef?_eq_some_iff.1 hc)
      | none =>
        rw [hc] at h
        cases h
        refine .other hj hstring harray fun c h => ?_
        rw [classRef?_eq_some_iff.2 h] at hc
        cases hc
  · intro h
    cases h with
    | name ht => exact ⟨_, Document.toJson?_eq_string_iff.2 ht, rfl⟩
    | composite ht => exact ⟨_, ht, rfl⟩
    | @classRef j c ht hc =>
      obtain ⟨entries, rfl⟩ := exists_object_of_refersTo ht hc
      exact ⟨_, ht, by rw [classRef?_eq_some_iff.2 hc]; rfl⟩
    | @other j ht hstring harray hc =>
      have hnone : classRef? t = none := by
        rw [Option.eq_none_iff_forall_ne_some]
        exact fun c h => hc c (classRef?_eq_some_iff.1 h)
      refine ⟨j, ht, ?_⟩
      rw [hnone]
      split
      · next s => exact absurd rfl (hstring s)
      · next items => exact absurd rfl (harray items)
      · rfl

end PropertyType

end AngularClient
