import AngularClient.Json.Record
import AngularClient.Proofs.Dictionary
import AngularClient.Proofs.Lists

namespace AngularClient

section Forall₂

variable {α β : Type} {R : α → β → Prop}

theorem Dictionary.forall₂_given {l : List (String × α)} {l' : List (String × β)}
    (h : List.Forall₂ (fun e e' => e'.1 = e.1 ∧ R e.2 e'.2) l l') (key : String) :
    List.Forall₂ R (given l key) (given l' key) := by
  induction h with
  | nil => exact .nil
  | cons hab _ ih =>
    rw [given_cons, given_cons, hab.1]
    split
    · exact .cons hab.2 ih
    · exact ih

theorem getLast?_of_forall₂ {f : α → Option β} {l : List α} {l' : List β}
    (h : List.Forall₂ (fun a b => f a = some b) l l') : l'.getLast? = l.getLast?.bind f := by
  rw [List.getLast?_eq_head?_reverse, List.getLast?_eq_head?_reverse]
  have hreverse := List.forall₂_reverse_iff.2 h
  generalize l.reverse = r at hreverse
  generalize l'.reverse = r' at hreverse
  cases hreverse with
  | nil => rfl
  | cons hab _ => exact hab.symm

end Forall₂

namespace Document

variable {d : Document} {j : Json} {members : List (Option String × Document)}
  {ms : List (String × Document)} {js : List (String × Json)}

def HasValues (ms : List (String × Document)) (js : List (String × Json)) : Prop :=
  List.Forall₂ (fun e e' => e'.1 = e.1 ∧ e.2.toJson? = some e'.2) ms js

theorem mapM_toJson?_eq_some_iff :
    (ms.mapM fun (k, v) => v.toJson?.map (k, ·)) = some js ↔ HasValues ms js := by
  rw [mapM_eq_some_iff, HasValues]
  apply iff_of_eq
  congr 1
  funext e e'
  obtain ⟨k, v⟩ := e
  obtain ⟨k', j⟩ := e'
  simp [and_comm, eq_comm]

theorem HasValues.given (h : HasValues ms js) (key : String) :
    List.Forall₂ (fun d j => d.toJson? = some j) (Dictionary.given ms key)
      (Dictionary.given js key) :=
  Dictionary.forall₂_given (R := fun d j => toJson? d = some j) h key

theorem HasValues.find? (h : HasValues ms js) (key : String) :
    Dictionary.find? (Dictionary.ofList js) key =
      (Dictionary.given ms key).getLast?.bind toJson? := by
  rw [Dictionary.find?_ofList]
  exact getLast?_of_forall₂ (h.given key)

theorem HasValues.given_ofList {key : String} (h : HasValues ms js)
    (honce : (Dictionary.given ms key).length ≤ 1) :
    List.Forall₂ (fun d j => d.toJson? = some j) (Dictionary.given ms key)
      (Dictionary.given (Dictionary.ofList js) key) := by
  have hvalues := h.given key
  rw [Dictionary.given_ofList (hvalues.length_eq ▸ honce)]
  exact hvalues

theorem HasValues.filter (h : HasValues ms js) (p : String → Bool) :
    HasValues (ms.filter fun e => p e.1) (js.filter fun e => p e.1) := by
  induction h with
  | nil => exact .nil
  | cons hab _ ih =>
    rw [List.filter_cons, List.filter_cons, hab.1]
    split
    · exact .cons hab ih
    · exact ih

theorem membersToJson?_eq_some_iff : membersToJson? members = some js ↔
    ∃ ms, (object members).members? = some ms ∧ HasValues ms js := by
  induction members generalizing js with
  | nil =>
    rw [membersToJson?]
    constructor
    · intro h
      cases h
      exact ⟨[], rfl, .nil⟩
    · rintro ⟨ms, hms, h⟩
      cases hms
      cases h
      rfl
  | cons e rest ih =>
    obtain ⟨k, v⟩ := e
    rw [membersToJson?, members?, List.mapM_cons]
    simp only [Option.bind_eq_bind, Option.pure_def]
    cases k with
    | none => simp
    | some key =>
      rw [Option.bind_some, Option.map_some, Option.bind_some]
      constructor
      · intro h
        obtain ⟨j, hj, h⟩ := Option.bind_eq_some_iff.1 h
        obtain ⟨js', hrest, h⟩ := Option.bind_eq_some_iff.1 h
        cases h
        obtain ⟨ms, hms, hvalues⟩ := ih.1 hrest
        rw [members?] at hms
        exact ⟨(key, v) :: ms, by rw [hms]; rfl, .cons ⟨rfl, hj⟩ hvalues⟩
      · rintro ⟨ms, hms, hvalues⟩
        obtain ⟨ms', hms', h⟩ := Option.bind_eq_some_iff.1 hms
        cases h
        cases hvalues with
        | @cons _ e' _ js' hab hrest =>
          obtain ⟨key', j⟩ := e'
          obtain ⟨rfl, hj⟩ := hab
          rw [ih.2 ⟨ms', by rw [members?]; exact hms', hrest⟩, hj]
          rfl

theorem toJson?_eq_object_iff {entries : List (String × Json)} :
    d.toJson? = some (.object entries) ↔
      ∃ ms js, d.members? = some ms ∧ HasValues ms js ∧ entries = Dictionary.ofList js := by
  cases d with
  | object members =>
    rw [toJson?, Option.bind_eq_bind, Option.bind_eq_some_iff]
    constructor
    · rintro ⟨js, hjs, h⟩
      cases h
      obtain ⟨ms, hms, hvalues⟩ := membersToJson?_eq_some_iff.1 hjs
      exact ⟨ms, js, hms, hvalues, rfl⟩
    · rintro ⟨ms, js, hms, hvalues, rfl⟩
      exact ⟨js, membersToJson?_eq_some_iff.2 ⟨ms, hms, hvalues⟩, rfl⟩
  | array items =>
    rw [toJson?]
    cases itemsToJson? items <;> simp [members?]
  | _ => simp [toJson?, members?]

theorem exists_toJson?_of_members? (hd : d.members? = some ms) (h : d.toJson? = some j) :
    ∃ js, HasValues ms js ∧ j = .object (Dictionary.ofList js) := by
  cases d with
  | object members =>
    rw [toJson?, Option.bind_eq_bind, Option.bind_eq_some_iff] at h
    obtain ⟨js, hjs, h⟩ := h
    cases h
    obtain ⟨ms', hms', hvalues⟩ := membersToJson?_eq_some_iff.1 hjs
    obtain rfl := Option.some.inj (hd.symm.trans hms')
    exact ⟨js, hvalues, rfl⟩
  | _ => cases hd

theorem itemsToJson?_eq_some_iff {items : List Document} {values : List Json} :
    itemsToJson? items = some values ↔
      List.Forall₂ (fun d j => d.toJson? = some j) items values := by
  induction items generalizing values with
  | nil =>
    rw [itemsToJson?, List.forall₂_nil_left_iff]
    exact ⟨fun h => (Option.some.inj h).symm, fun h => congrArg some h.symm⟩
  | cons d rest ih =>
    rw [itemsToJson?, List.forall₂_cons_left_iff]
    constructor
    · intro h
      obtain ⟨j, hj, h⟩ := Option.bind_eq_some_iff.1 h
      obtain ⟨more, hmore, h⟩ := Option.bind_eq_some_iff.1 h
      cases h
      exact ⟨j, more, hj, ih.1 hmore, rfl⟩
    · rintro ⟨j, more, hj, hmore, rfl⟩
      rw [hj, ih.2 hmore]
      rfl

theorem toJson?_eq_array_iff {values : List Json} : d.toJson? = some (.array values) ↔
    ∃ items, d = .array items ∧ List.Forall₂ (fun d j => d.toJson? = some j) items values := by
  cases d with
  | array items =>
    rw [toJson?, Option.bind_eq_bind, Option.bind_eq_some_iff]
    simp [← itemsToJson?_eq_some_iff]
  | object members => rw [toJson?]; cases membersToJson? members <;> simp
  | _ => simp [toJson?]

@[simp] theorem toJson?_eq_null_iff : d.toJson? = some .null ↔ d = .null := by
  cases d with
  | array items => rw [toJson?]; cases itemsToJson? items <;> simp
  | object members => rw [toJson?]; cases membersToJson? members <;> simp
  | _ => simp [toJson?]

@[simp]
theorem toJson?_eq_string_iff {s : String} : d.toJson? = some (.string s) ↔ d = .string s := by
  cases d with
  | array items => rw [toJson?]; cases itemsToJson? items <;> simp
  | object members => rw [toJson?]; cases membersToJson? members <;> simp
  | _ => simp [toJson?]

end Document

/-- A value whose objects, at any depth, have their keys in order. -/
inductive Json.Ordered : Json → Prop
  | null : Ordered .null
  | bool (b : Bool) : Ordered (.bool b)
  | number (n : Number) : Ordered (.number n)
  | string (s : String) : Ordered (.string s)
  | array {items : List Json} (inner : ∀ j ∈ items, Ordered j) : Ordered (.array items)
  | object {members : List (String × Json)} (sorted : Dictionary.Sorted members)
      (inner : ∀ e ∈ members, Ordered e.2) : Ordered (.object members)

theorem Json.ordered_ofMembers {members : List (String × Json)}
    (h : ∀ e ∈ members, e.2.Ordered) : (Json.ofMembers members).Ordered :=
  .object (Dictionary.sorted_ofList _) fun e he => h e (Dictionary.mem_of_mem_ofList he)

namespace Document

mutual

theorem ordered_of_toJson? : ∀ (d : Document) {j : Json}, d.toJson? = some j → j.Ordered
  | .null, _, h => by cases h; exact .null
  | .bool b, _, h => by cases h; exact .bool b
  | .number n, _, h => by cases h; exact .number n
  | .string s, _, h => by cases h; exact .string s
  | .array items, _, h => by
    rw [toJson?] at h
    obtain ⟨js, hjs, h⟩ := Option.bind_eq_some_iff.1 h
    cases h
    exact .array (ordered_of_itemsToJson? items hjs)
  | .object members, _, h => by
    rw [toJson?] at h
    obtain ⟨js, hjs, h⟩ := Option.bind_eq_some_iff.1 h
    cases h
    exact Json.ordered_ofMembers (ordered_of_membersToJson? members hjs)
  | .unreadable, _, h => by cases h

theorem ordered_of_itemsToJson? : ∀ (items : List Document) {js : List Json},
    itemsToJson? items = some js → ∀ j ∈ js, j.Ordered
  | [], _, h => by cases h; exact nofun
  | d :: rest, _, h => by
    rw [itemsToJson?] at h
    obtain ⟨j, hj, h⟩ := Option.bind_eq_some_iff.1 h
    obtain ⟨js, hjs, h⟩ := Option.bind_eq_some_iff.1 h
    cases h
    rw [List.forall_mem_cons]
    exact ⟨ordered_of_toJson? d hj, ordered_of_itemsToJson? rest hjs⟩

theorem ordered_of_membersToJson? : ∀ (members : List (Option String × Document))
    {js : List (String × Json)}, membersToJson? members = some js → ∀ e ∈ js, e.2.Ordered
  | [], _, h => by cases h; exact nofun
  | (k, d) :: rest, _, h => by
    rw [membersToJson?] at h
    obtain ⟨key, -, h⟩ := Option.bind_eq_some_iff.1 h
    obtain ⟨j, hj, h⟩ := Option.bind_eq_some_iff.1 h
    obtain ⟨js, hjs, h⟩ := Option.bind_eq_some_iff.1 h
    cases h
    rw [List.forall_mem_cons]
    exact ⟨ordered_of_toJson? d hj, ordered_of_membersToJson? rest hjs⟩

end

theorem ordered_of_hasValues {ms : List (String × Document)} {js : List (String × Json)}
    (h : HasValues ms js) : ∀ e ∈ js, e.2.Ordered := by
  induction h with
  | nil => exact nofun
  | cons hab _ ih =>
    rw [List.forall_mem_cons]
    exact ⟨ordered_of_toJson? _ hab.2, ih⟩

mutual

theorem toJson?_ofJson : ∀ j : Json, j.Ordered → (ofJson j).toJson? = some j
  | .null, _ => rfl
  | .bool _, _ => rfl
  | .number _, _ => rfl
  | .string _, _ => rfl
  | .array items, h => by
    cases h with
    | array inner => rw [ofJson, toJson?, itemsToJson?_ofItems items inner]; rfl
  | .object members, h => by
    cases h with
    | object sorted inner =>
      rw [ofJson, toJson?, membersToJson?_ofMembers members inner, Option.bind_eq_bind,
        Option.bind_some, sorted.ofList]
      rfl

theorem itemsToJson?_ofItems : ∀ items : List Json, (∀ j ∈ items, j.Ordered) →
    itemsToJson? (ofItems items) = some items
  | [], _ => rfl
  | j :: rest, h => by
    rw [List.forall_mem_cons] at h
    rw [ofItems, itemsToJson?, toJson?_ofJson j h.1, itemsToJson?_ofItems rest h.2]
    rfl

theorem membersToJson?_ofMembers : ∀ members : List (String × Json),
    (∀ e ∈ members, e.2.Ordered) → membersToJson? (ofMembers members) = some members
  | [], _ => rfl
  | (k, j) :: rest, h => by
    rw [List.forall_mem_cons] at h
    rw [ofMembers, membersToJson?, toJson?_ofJson j h.1, membersToJson?_ofMembers rest h.2]
    rfl

end

theorem members?_ofJson (members : List (String × Json)) :
    (ofJson (.object members)).members? = some (members.map fun e => (e.1, ofJson e.2)) := by
  rw [ofJson, members?]
  induction members with
  | nil => rfl
  | cons e rest ih =>
    obtain ⟨k, j⟩ := e
    rw [ofMembers, List.mapM_cons, ih]
    rfl

theorem members?_ofJson_eq_some_iff {j : Json} {members : List (String × Document)} :
    (ofJson j).members? = some members ↔
      ∃ entries, j = .object entries ∧ members = entries.map fun e => (e.1, ofJson e.2) := by
  cases j with
  | object entries => simp [members?_ofJson, eq_comm]
  | _ => simp [ofJson, members?]

theorem given_map_ofJson {entries : List (String × Json)} (h : Dictionary.Sorted entries)
    (key : String) : Dictionary.given (entries.map fun e => (e.1, ofJson e.2)) key =
      ((Dictionary.find? entries key).map ofJson).toList := by
  simp [h.given, Option.toList_map]

theorem given_ofMembers (entries : List (String × Json)) (key : String) :
    Dictionary.given ((Dictionary.ofList entries).map fun e => (e.1, ofJson e.2)) key =
      ((Dictionary.given entries key).getLast?.map ofJson).toList := by
  simp [given_map_ofJson (Dictionary.sorted_ofList entries)]

theorem hasValues_map_ofJson {entries : List (String × Json)}
    (h : ∀ e ∈ entries, e.2.Ordered) :
    HasValues (entries.map fun e => (e.1, ofJson e.2)) entries := by
  rw [HasValues, List.forall₂_map_left_iff, List.forall₂_same]
  exact fun e he => ⟨rfl, toJson?_ofJson e.2 (h e he)⟩

@[simp] theorem ofJson_eq_null_iff {j : Json} : ofJson j = .null ↔ j = .null := by
  cases j <;> simp [ofJson]

@[simp]
theorem ofJson_eq_string_iff {j : Json} {s : String} : ofJson j = .string s ↔ j = .string s := by
  cases j <;> simp [ofJson]

@[simp] theorem ofItems_eq_map (items : List Json) : ofItems items = items.map ofJson := by
  induction items with
  | nil => rfl
  | cons j rest ih => rw [ofItems, ih, List.map_cons]

end Document

end AngularClient
