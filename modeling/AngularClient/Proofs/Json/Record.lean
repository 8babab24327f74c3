import AngularClient.Proofs.Json.Values

namespace AngularClient.Document

open Dictionary (given)

variable {names : List FieldNames} {members : List (String × Document)} {fields : Fields}
  {key name : String} {d : Document} {α : Type} {value : Document → Option α}

def read? (value : Document → Option α) : Option Document → Option (Option α)
  | none => some none
  | some d => (value d).map some

theorem Fields.withDefault_eq (fields : Fields) (name : String) (default : α)
    (value : Document → Option α) : fields.withDefault name default value =
      (read? value (fields.lookup name)).map (·.getD default) := by
  unfold Fields.withDefault
  cases fields.lookup name with
  | none => rfl
  | some d => cases h : value d <;> simp [read?, h]

theorem Fields.required_eq (fields : Fields) (name : String) (value : Document → Option α) :
    fields.required name value = (fields.lookup name).bind value := rfl

theorem Fields.optional_of_lookup {x : Option α} (write : α → Json)
    (h : fields.lookup name = (x.map write).map ofJson)
    (hread : ∀ a ∈ x, write a ≠ .null ∧ value (ofJson (write a)) = some a) :
    fields.optional name value = some x := by
  rw [optional, withDefault, h]
  cases x with
  | none => rfl
  | some a =>
    obtain ⟨hnull, hvalue⟩ := hread a rfl
    have hdocument : ofJson (write a) ≠ .null := fun h => hnull (ofJson_eq_null_iff.1 h)
    rw [Option.map_some, Option.map_some]
    change nullable? value (ofJson (write a)) = _
    unfold nullable?
    split
    · next hd => exact absurd hd hdocument
    · rw [hvalue, Option.map_some]

section Plain

variable (hplain : ∀ ns ∈ names, ns.length = 1)
include hplain

theorem fieldOf_eq_some_iff : fieldOf names key = some name ↔ key = name ∧ [name] ∈ names := by
  induction names with
  | nil => simp [fieldOf]
  | cons ns names ih =>
    rw [List.forall_mem_cons] at hplain
    obtain ⟨n, rfl⟩ := List.length_eq_one_iff.1 hplain.1
    have ih := ih hplain.2
    rw [fieldOf] at *
    by_cases heq : key = n
    · rw [List.find?_cons_of_pos (by simp [heq]), Option.bind_some, List.head?_cons,
        Option.some.injEq]
      constructor
      · rintro rfl
        exact ⟨heq, List.mem_cons_self⟩
      · rintro ⟨rfl, -⟩
        exact heq.symm
    · rw [List.find?_cons_of_neg (by simp [heq]), ih, List.mem_cons]
      constructor
      · rintro ⟨rfl, hmem⟩
        exact ⟨rfl, .inr hmem⟩
      · rintro ⟨rfl, hmem⟩
        exact ⟨rfl, hmem.resolve_left (by simpa using heq)⟩

theorem filterMap_fieldOf (members : List (String × Document)) :
    (members.filterMap fun (k, d) => (fieldOf names k).map (·, d)) =
      members.filter fun e => decide ([e.1] ∈ names) := by
  induction members with
  | nil => rfl
  | cons e rest ih =>
    obtain ⟨k, d⟩ := e
    by_cases hk : [k] ∈ names
    · have hfield := (fieldOf_eq_some_iff hplain).2 ⟨rfl, hk⟩
      rw [List.filter_cons_of_pos (by simpa using hk), ← ih]
      exact List.filterMap_cons_some (by simp [hfield])
    · have hfield : fieldOf names k = none := by
        rw [Option.eq_none_iff_forall_ne_some]
        intro name hname
        obtain ⟨rfl, hmem⟩ := (fieldOf_eq_some_iff hplain).1 hname
        exact hk hmem
      rw [List.filter_cons_of_neg (by simpa using hk), ← ih]
      exact List.filterMap_cons_none (by simp [hfield])

theorem fieldsOf?_eq_some_iff : fieldsOf? names members = some fields ↔
    (∀ name, [name] ∈ names → (given members name).length ≤ 1) ∧
      fields = members.filter fun e => decide ([e.1] ∈ names) := by
  have hnodup : ((members.filter fun e => decide ([e.1] ∈ names)).map Prod.fst).Nodup ↔
      ∀ name, [name] ∈ names → (given members name).length ≤ 1 := by
    rw [← Dictionary.keys, Dictionary.nodup_keys_iff]
    apply forall_congr'
    intro name
    rw [Dictionary.given_filter fun k => decide ([k] ∈ names)]
    by_cases hname : [name] ∈ names
    · simp [hname]
    · simp [hname]
  rw [fieldsOf?, filterMap_fieldOf hplain, ← hnodup]
  split
  · next h => simp [h, eq_comm]
  · next h => simp [h]

theorem given_of_fieldsOf? (h : fieldsOf? names members = some fields) (hname : [name] ∈ names) :
    given members name = (fields.lookup name).toList := by
  obtain ⟨honce, rfl⟩ := (fieldsOf?_eq_some_iff hplain).1 h
  have hgiven := Dictionary.given_filter (fun k => decide ([k] ∈ names)) members name
  rw [if_pos (by simpa using hname)] at hgiven
  have hlength := honce name hname
  rw [← hgiven] at hlength ⊢
  exact Dictionary.given_eq_find? hlength

theorem lookup_of_fieldsOf? (h : fieldsOf? names members = some fields) (hname : [name] ∈ names) :
    fields.lookup name = (given members name).head? := by
  rw [given_of_fieldsOf? hplain h hname, Option.head?_toList]

theorem exists_fieldsOf?_ofJson {entries : List (String × Json)} (h : Dictionary.Sorted entries) :
    ∃ fields, fieldsOf? names (entries.map fun e => (e.1, ofJson e.2)) = some fields ∧
      ∀ name, [name] ∈ names → fields.lookup name = (Dictionary.find? entries name).map ofJson := by
  have honce : ∀ name, [name] ∈ names →
      (given (entries.map fun e => (e.1, ofJson e.2)) name).length ≤ 1 := by
    intro name _
    rw [given_map_ofJson h]
    exact Option.length_toList_le
  have hfields := (fieldsOf?_eq_some_iff hplain).2 ⟨honce, rfl⟩
  refine ⟨_, hfields, fun name hname => ?_⟩
  rw [lookup_of_fieldsOf? hplain hfields hname, given_map_ofJson h, Option.head?_toList]

end Plain

theorem exists_fieldsOf?_singleton_iff {p : Option Document → Prop} :
    (∃ fields, fieldsOf? [[name]] members = some fields ∧ p (fields.lookup name)) ↔
      ∃ x, given members name = x.toList ∧ p x := by
  have hplain : ∀ ns ∈ [[name]], ns.length = 1 := List.forall_mem_singleton.2 rfl
  constructor
  · rintro ⟨fields, hfields, h⟩
    exact ⟨_, given_of_fieldsOf? hplain hfields (List.mem_singleton_self _), h⟩
  · rintro ⟨x, hx, h⟩
    have honce : ∀ name', [name'] ∈ [[name]] → (given members name').length ≤ 1 := by
      intro name' hmem
      rw [List.mem_singleton, List.cons.injEq] at hmem
      rw [hmem.1, hx]
      exact Option.length_toList_le
    have hfields := (fieldsOf?_eq_some_iff hplain).2 ⟨honce, rfl⟩
    refine ⟨_, hfields, ?_⟩
    rwa [lookup_of_fieldsOf? hplain hfields (List.mem_singleton_self _), hx, Option.head?_toList]

theorem record?_of_members? (h : d.members? = some members) :
    d.record? names = fieldsOf? names members := by
  cases d with
  | object _ =>
    change (members? _).bind _ = _
    rw [h, Option.bind_some]
  | _ => cases h

theorem record?_eq_some_iff : d.record? names = some fields ↔
    (∃ items, d = .array items ∧ items.length ≤ names.length ∧
      fields = (names.filterMap (·.head?)).zip items) ∨
    ∃ members, d.members? = some members ∧ fieldsOf? names members = some fields := by
  cases d with
  | array items =>
    rw [record?]
    simp only [members?, reduceCtorEq, false_and, exists_false, or_false, array.injEq]
    constructor
    · intro h
      split at h
      · next hlength => exact ⟨items, rfl, hlength, (Option.some.inj h).symm⟩
      · cases h
    · rintro ⟨_, rfl, hlength, rfl⟩
      rw [if_pos hlength]
  | object members =>
    have hrecord : (object members).record? names =
        (object members).members?.bind (fieldsOf? names) := rfl
    rw [hrecord, Option.bind_eq_some_iff]
    simp
  | _ => simp [record?, members?]

theorem exists_record?_ofMembers (names : List FieldNames) (hplain : ∀ ns ∈ names, ns.length = 1)
    (entries : List (String × Json)) :
    ∃ fields, (ofJson (.ofMembers entries)).record? names = some fields ∧
      ∀ name, [name] ∈ names → fields.lookup name = (given entries name).getLast?.map ofJson := by
  obtain ⟨fields, hfields, hlookup⟩ :=
    exists_fieldsOf?_ofJson hplain (Dictionary.sorted_ofList entries)
  refine ⟨fields, ?_, fun name hname => ?_⟩
  · rw [Json.ofMembers, record?_of_members? (members?_ofJson _), hfields]
  · simp [hlookup name hname]

end AngularClient.Document
