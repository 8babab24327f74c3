import AngularClient.Model.Described
import AngularClient.Proofs.Registry.Definitions

namespace AngularClient

open Dictionary (given)

/-- What a snapshot shows for the type, given what the definition has there.  Only a reference to a
class is replaced. -/
inductive PropertyDefinition.ShowsType : List Document → Option Json → Prop
  | missing : ShowsType [] none
  | null : ShowsType [.null] none
  | model {t : Document} {c : ClassRef} {model : String} (hc : t.RefersTo c)
      (hmodel : c.modelName = some model) : ShowsType [t] (some (.string model))
  | constructor {t : Document} {c : ClassRef} (hc : t.RefersTo c) (hmodel : c.modelName = none) :
      ShowsType [t] (some (.string c.name))
  | kept {t : Document} {j : Json} (hnull : t ≠ .null) (hc : ∀ c, ¬ t.RefersTo c)
      (ht : t.toJson? = some j) : ShowsType [t] (some j)

namespace PropertyDefinition

variable {p : PropertyDefinition} {ts : List Document} {type : Option PropertyType} {key : String}

theorem TypeFrom.showsType (h : TypeFrom ts type) : ShowsType ts (type.map (·.normalize)) := by
  cases h with
  | missing => exact .missing
  | null => exact .null
  | given hnull h =>
    cases h with
    | name ht =>
      subst ht
      refine .kept hnull ?_ rfl
      rintro c ⟨members, -, hmembers, -⟩
      cases hmembers
    | composite ht =>
      refine .kept hnull (fun c hc => ?_) ht
      obtain ⟨entries, hentries⟩ := PropertyType.exists_object_of_refersTo ht hc
      cases hentries
    | @classRef j c ht hc =>
      cases hmodel : c.modelName with
      | none =>
        rw [Option.map_some, PropertyType.normalize, hmodel]
        exact .constructor hc hmodel
      | some model =>
        rw [Option.map_some, PropertyType.normalize, hmodel]
        exact .model hc hmodel
    | other ht _ _ hc => exact .kept hnull hc ht

def entry (p : PropertyDefinition) : Dictionary Json :=
  match p.type with
  | some type => Dictionary.insert "type" type.normalize p.extra
  | none => p.extra

theorem snapshot_eq (p : PropertyDefinition) : p.snapshot = .object p.entry := by
  rw [snapshot, entry]
  cases p.type <;> rfl

theorem sorted_entry (h : p.extra.Sorted) : p.entry.Sorted := by
  rw [entry]
  cases p.type with
  | none => exact h
  | some type => exact h.insert _ _

theorem find?_entry (h : p.extra.find? "type" = none) (key : String) : p.entry.find? key =
    if key = "type" then p.type.map (·.normalize) else p.extra.find? key := by
  rw [entry]
  cases p.type with
  | none =>
    by_cases hkey : key = "type"
    · rw [hkey, if_pos rfl]
      exact h
    · rw [if_neg hkey]
  | some type => exact Dictionary.find?_insert _ _ _ _

end PropertyDefinition

namespace Schema

/-- A schema holds for every property the object that its definition was read from, in which at most
the type differs: null is left out, a reference to a class becomes the name of the model or else of
the constructor, and every other type is as it was. -/
theorem keeps_definitions (name : String) (definitions : Dictionary PropertyDefinition)
    (property : String) (d : Document) (p : PropertyDefinition)
    (hd : PropertyDefinition.ofDocument? d = some p) (hp : definitions.find? property = some p) :
    ∃ members entries entry, d.members? = some members ∧ d.toJson? = some (.object entries) ∧
      (ofDefinitions name definitions).properties.find? property = some (.object entry) ∧
      Dictionary.Sorted entry ∧
      (∀ key, key ≠ "type" → Dictionary.find? entry key = Dictionary.find? entries key) ∧
      PropertyDefinition.ShowsType (given members "type") (Dictionary.find? entry "type") := by
  obtain ⟨members, js, hmembers, htype, hjs, hextra⟩ :=
    PropertyDefinition.ofDocument?_eq_some_iff.1 hd
  obtain ⟨entries, hentries, -, hfind⟩ := PropertyDefinition.exists_toJson? hmembers htype hjs
  have hfindExtra := PropertyDefinition.find?_extra hjs hextra
  have hfindEntry := PropertyDefinition.find?_entry ((hfindExtra "type").trans (if_pos rfl))
  have hsorted : p.extra.Sorted := hextra ▸ Dictionary.sorted_ofList js
  refine ⟨members, entries, p.entry, hmembers, hentries, ?_,
    PropertyDefinition.sorted_entry hsorted, ?_, ?_⟩
  · have hmap := Dictionary.find?_mapValues PropertyDefinition.snapshot definitions property
    rw [hp, Option.map_some, PropertyDefinition.snapshot_eq] at hmap
    exact hmap
  · intro key hkey
    rw [hfindEntry, if_neg hkey, hfindExtra, if_neg hkey, hfind]
  · rw [hfindEntry, if_pos rfl]
    exact htype.showsType

/-- Where a place is: a reference in the form of an array that names no model, and beside it members
which look like types. -/
def located : Document :=
  .object [(some "$class", .object [(some "name", .string "Point")]),
    (some "type", .object [(some "$class", .array [.null, .string "GeoPoint"])]),
    (some "Type", .array [.object [(some "type", .null)]])]

theorem keeps_definitions_located : ∃ p, PropertyDefinition.ofDocument? located = some p ∧
    ∃ members entries entry, located.members? = some members ∧
      located.toJson? = some (.object entries) ∧
      (ofDefinitions "Place" [("at", p)]).properties.find? "at" = some (.object entry) ∧
      Dictionary.find? entry "type" = some (.string "GeoPoint") ∧
      (∀ key, key ≠ "type" → Dictionary.find? entry key = Dictionary.find? entries key) ∧
      PropertyDefinition.ShowsType (given members "type") (Dictionary.find? entry "type") := by
  obtain ⟨p, hp⟩ : ∃ p, PropertyDefinition.ofDocument? located = some p := ⟨_, rfl⟩
  obtain ⟨members, entries, entry, hmembers, hentries, hentry, -, hkept, htype⟩ :=
    keeps_definitions "Place" [("at", p)] "at" located p hp rfl
  refine ⟨p, hp, members, entries, entry, hmembers, hentries, hentry, ?_, hkept, htype⟩
  cases hp
  cases hentry
  rfl

end Schema

end AngularClient
