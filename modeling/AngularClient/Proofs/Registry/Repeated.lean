import AngularClient.Proofs.Registry.References

namespace AngularClient

open Dictionary (given)

namespace Document

/-- No reference to a class, though the value is one. -/
def HidesReference (t : Document) : Prop :=
  (∀ c, ¬ t.RefersTo c) ∧ ∃ j c, t.toJson? = some j ∧ (ofJson j).RefersTo c

/-- An object that gives `$class` twice, or gives there an object with a name of the class twice. -/
def RepeatsReference (t : Document) : Prop :=
  ∃ members, t.members? = some members ∧
    (1 < (given members "$class").length ∨
      ∃ ref ∈ given members "$class", ∃ inner, ref.members? = some inner ∧
        (1 < (given inner "modelName").length ∨ 1 < (given inner "name").length))

theorem Spells.of_ofJson {x : Option String} {ds : List Document} {js : List Json}
    (h : List.Forall₂ (fun d j => d.toJson? = some j) ds js) (hx : Spells x (js.map ofJson)) :
    Spells x ds := by
  cases h with
  | nil => exact hx
  | @cons d j ds js hd hrest =>
    have hlength := hx.length_le
    rw [List.length_map, List.length_cons] at hlength
    obtain rfl : js = [] := List.length_eq_zero_iff.1 (by omega)
    cases hrest
    rw [List.map_singleton] at hx
    generalize hj : ofJson j = d' at hx
    cases hx with
    | null =>
      obtain rfl := ofJson_eq_null_iff.1 hj
      rw [toJson?_eq_null_iff.1 hd]
      exact .null
    | string s =>
      obtain rfl := ofJson_eq_string_iff.1 hj
      rw [toJson?_eq_string_iff.1 hd]
      exact .string s

end Document

open Document

variable {c : ClassRef}

theorem ClassRef.SpelledBy.of_ofJson {d : Document} {j : Json} (hj : d.toJson? = some j)
    (h : c.SpelledBy (ofJson j)) (honce : ∀ inner, d.members? = some inner →
      (given inner "modelName").length ≤ 1 ∧ (given inner "name").length ≤ 1) : c.SpelledBy d := by
  generalize hd' : ofJson j = d' at h
  cases h with
  | object hd hmodel hname =>
    rw [← hd', members?_ofJson_eq_some_iff] at hd
    obtain ⟨entries, rfl, rfl⟩ := hd
    obtain ⟨inner, js, hinner, hvalues, rfl⟩ := toJson?_eq_object_iff.1 hj
    obtain ⟨hmodelOnce, hnameOnce⟩ := honce inner hinner
    rw [Dictionary.given_map] at hmodel hname
    have hname : Spells (some c.name) (given inner "name") :=
      .of_ofJson (hvalues.given_ofList hnameOnce) (hname ▸ .string c.name)
    refine .object hinner (hmodel.of_ofJson (hvalues.given_ofList hmodelOnce)) ?_
    generalize given inner "name" = ds at hname
    cases hname
    rfl
  | @array model hmodel =>
    cases j with
    | array values =>
      obtain ⟨items, rfl, hvalues⟩ := toJson?_eq_array_iff.1 hj
      rw [ofJson, ofItems_eq_map, Document.array.injEq] at hd'
      obtain ⟨first, rest, rfl, rfl, hrest⟩ := List.map_eq_cons_iff.1 hd'
      obtain ⟨second, rfl, hname⟩ := List.map_eq_singleton_iff.1 hrest
      obtain ⟨model, names, hfirst, hnames, rfl⟩ := List.forall₂_cons_right_iff.1 hvalues
      obtain ⟨name, _, hsecond, hnil, rfl⟩ := List.forall₂_cons_right_iff.1 hnames
      cases hnil
      rw [ofJson_eq_string_iff.1 hname] at hsecond
      rw [toJson?_eq_string_iff.1 hsecond]
      exact .array (hmodel.of_ofJson (.cons hfirst .nil))
    | _ => simp [ofJson] at hd'

namespace Document

variable {t : Document}

theorem RefersTo.of_ofJson {j : Json} (hj : t.toJson? = some j) (h : (ofJson j).RefersTo c)
    (hrepeats : ¬ t.RepeatsReference) : t.RefersTo c := by
  obtain ⟨members, ref, hmembers, href, hc⟩ := h
  obtain ⟨entries, rfl, rfl⟩ := members?_ofJson_eq_some_iff.1 hmembers
  obtain ⟨ms, js, hms, hvalues, rfl⟩ := toJson?_eq_object_iff.1 hj
  have honce : (given ms "$class").length ≤ 1 :=
    Nat.le_of_not_lt fun h => hrepeats ⟨ms, hms, .inl h⟩
  rw [Dictionary.given_map] at href
  obtain ⟨value, hvalue, rfl⟩ := List.map_eq_singleton_iff.1 href
  have hgiven := hvalues.given_ofList honce
  rw [hvalue] at hgiven
  obtain ⟨ref, _, href, hnil, hcons⟩ := List.forall₂_cons_right_iff.1 hgiven
  cases hnil
  refine ⟨ms, ref, hms, hcons, hc.of_ofJson href fun inner hinner => ?_⟩
  have hmem : ref ∈ given ms "$class" := hcons ▸ List.mem_singleton_self ref
  constructor
  · exact Nat.le_of_not_lt fun h => hrepeats ⟨ms, hms, .inr ⟨ref, hmem, inner, hinner, .inl h⟩⟩
  · exact Nat.le_of_not_lt fun h => hrepeats ⟨ms, hms, .inr ⟨ref, hmem, inner, hinner, .inr h⟩⟩

theorem HidesReference.repeats (h : t.HidesReference) : t.RepeatsReference := by
  obtain ⟨hnone, j, c, hj, hc⟩ := h
  by_contra hrepeats
  exact hnone c (hc.of_ofJson hj hrepeats)

theorem not_hidesReference_of_toJson? {j : Json} (hj : t.toJson? = some j)
    (hobject : ∀ entries, j ≠ .object entries) : ¬ t.HidesReference := by
  rintro ⟨-, j', c, hj', members, -, hmembers, -⟩
  obtain rfl := Option.some.inj (hj.symm.trans hj')
  obtain ⟨entries, rfl, -⟩ := members?_ofJson_eq_some_iff.1 hmembers
  exact hobject entries rfl

end Document

end AngularClient
