import AngularClient.Dictionary
import Mathlib.Data.List.Induction
import Mathlib.Data.List.Sort

namespace AngularClient.Dictionary

variable {α : Type u}

@[grind →] theorem mem_of_mem_insert {d : Dictionary α} {key : String} {value : α} {e : String × α}
    (h : e ∈ d.insert key value) : e = (key, value) ∨ e ∈ d := by
  induction d with
  | nil => exact .inl (List.mem_singleton.1 h)
  | cons e' rest ih =>
    obtain ⟨k, v⟩ := e'
    unfold insert at h
    split at h
    · exact List.mem_cons.1 h
    · split at h
      · rcases List.mem_cons.1 h with h | h
        · exact .inl h
        · exact .inr (List.mem_cons_of_mem _ h)
      · rcases List.mem_cons.1 h with h | h
        · exact .inr (h ▸ List.mem_cons_self)
        · rcases ih h with h | h
          · exact .inl h
          · exact .inr (List.mem_cons_of_mem _ h)

theorem Sorted.find?_of_mem {d : Dictionary α} (hd : d.Sorted) {key : String} {value : α}
    (h : (key, value) ∈ d) : d.find? key = some value := by
  induction d with
  | nil => cases h
  | cons e rest ih =>
    obtain ⟨k, v⟩ := e
    have hk : ∀ k' ∈ keys rest, k < k' := (List.pairwise_cons.1 hd).1
    rcases List.mem_cons.1 h with h | h
    · cases h
      simp [find?]
    · have hlt : k < key := hk key (List.mem_map_of_mem h)
      have hne : (key == k) = false := by
        rw [beq_eq_false_iff_ne]
        rintro rfl
        exact String.lt_irrefl _ hlt
      rw [find?, List.lookup_cons, hne]
      exact ih (List.pairwise_cons.1 hd).2 h

theorem mem_of_find?_eq_some {d : Dictionary α} {key : String} {value : α}
    (h : d.find? key = some value) : (key, value) ∈ d := by
  induction d with
  | nil => cases h
  | cons e rest ih =>
    obtain ⟨k, v⟩ := e
    rw [find?, List.lookup_cons] at h
    split at h
    · next heq =>
      rw [eq_of_beq heq, Option.some.inj h]
      exact List.mem_cons_self
    · exact List.mem_cons_of_mem _ (ih h)

theorem Sorted.ext {d d' : Dictionary α} (hd : d.Sorted) (hd' : d'.Sorted)
    (h : ∀ key, d.find? key = d'.find? key) : d = d' := by
  have hirrefl : Std.Irrefl fun a b : String × α => a.1 < b.1 := ⟨fun a => String.lt_irrefl a.1⟩
  have hantisymm : Std.Antisymm fun a b : String × α => a.1 < b.1 :=
    ⟨fun _ _ hab hba => absurd (String.lt_trans hab hba) (String.lt_irrefl _)⟩
  apply (List.pairwise_map.1 hd).eq_of_mem_iff (List.pairwise_map.1 hd')
  rintro ⟨key, value⟩
  constructor
  · intro he
    exact mem_of_find?_eq_some (h key ▸ hd.find?_of_mem he)
  · intro he
    exact mem_of_find?_eq_some (h key ▸ hd'.find?_of_mem he)

@[simp] theorem find?_eq_none_iff {d : Dictionary α} {key : String} :
    d.find? key = none ↔ key ∉ d.keys := by
  induction d with
  | nil => simp [find?, keys]
  | cons e rest ih =>
    have hrest : find? rest key = rest.lookup key := rfl
    by_cases h : key = e.1
    · simp [find?, keys, h]
    · have hne : (key == e.1) = false := by rw [beq_eq_false_iff_ne]; exact h
      rw [find?, List.lookup_cons, hne, ← hrest, ih]
      simp [keys, h]

theorem Sorted.nodup_keys {d : Dictionary α} (hd : d.Sorted) : d.keys.Nodup := by
  refine List.Pairwise.imp ?_ hd
  rintro a b hlt rfl
  exact String.lt_irrefl _ hlt

theorem Sorted.filter {d : Dictionary α} (hd : d.Sorted) (p : String × α → Bool) :
    Sorted (d.filter p) := List.Pairwise.sublist (List.filter_sublist.map _) hd

theorem sorted_ofList (l : List (String × α)) : (ofList l).Sorted := by
  have hfold : ∀ d : Dictionary α, d.Sorted →
      (l.foldl (fun d (e : String × α) => d.insert e.1 e.2) d).Sorted := by
    induction l with
    | nil => exact fun d hd => hd
    | cons e l ih => exact fun d hd => ih _ (hd.insert e.1 e.2)
  exact hfold [] List.Pairwise.nil

theorem mem_of_mem_ofList {l : List (String × α)} {e : String × α} (h : e ∈ ofList l) : e ∈ l := by
  have hfold : ∀ d : Dictionary α,
      e ∈ l.foldl (fun d (e : String × α) => d.insert e.1 e.2) d → e ∈ d ∨ e ∈ l := by
    clear h
    induction l with
    | nil => exact fun d hd => .inl hd
    | cons f l ih =>
      intro d hd
      rcases ih _ hd with h | h <;> grind
  exact (hfold [] h).resolve_left List.not_mem_nil

section Given

variable {l l' : List (String × α)} {key name : String} {value : α}

def given (l : List (String × α)) (key : String) : List α :=
  (l.filter (·.1 == key)).map Prod.snd

@[simp] theorem given_nil (key : String) : given ([] : List (String × α)) key = [] := rfl

@[simp] theorem given_cons (e : String × α) (l : List (String × α)) (key : String) :
    given (e :: l) key = if e.1 = key then e.2 :: given l key else given l key := by
  by_cases h : e.1 = key
  · simp [given, h]
  · simp [given, h]

@[simp] theorem given_append (l l' : List (String × α)) (key : String) :
    given (l ++ l') key = given l key ++ given l' key := by
  simp [given]

@[simp] theorem given_filter (p : String → Bool) (l : List (String × α)) (key : String) :
    given (l.filter fun e => p e.1) key = if p key = true then given l key else [] := by
  induction l with
  | nil => simp
  | cons e l ih =>
    rw [List.filter_cons, given_cons]
    by_cases he : e.1 = key
    · rw [if_pos he, he]
      split
      · next hp => rw [given_cons, if_pos he, ih, if_pos hp]
      · next hp => rw [ih, if_neg hp]
    · rw [if_neg he, ← ih]
      split
      · simp [he]
      · rfl

@[simp] theorem given_map {β : Type v} (f : α → β) (l : List (String × α)) (key : String) :
    given (l.map fun e => (e.1, f e.2)) key = (given l key).map f := by
  induction l with
  | nil => rfl
  | cons e l ih =>
    rw [List.map_cons, given_cons, given_cons, ih]
    split <;> rfl

theorem find?_eq_head?_given (d : Dictionary α) (key : String) :
    d.find? key = (given d key).head? := by
  induction d with
  | nil => rfl
  | cons e d ih =>
    rw [given_cons, find?, List.lookup_cons]
    by_cases h : key = e.1
    · simp [h]
    · have hne : (key == e.1) = false := by rw [beq_eq_false_iff_ne]; exact h
      rw [hne, if_neg (Ne.symm h)]
      exact ih

theorem nodup_keys_iff : (keys l).Nodup ↔ ∀ key, (given l key).length ≤ 1 := by
  have hcount (key : String) : (keys l).count key = (given l key).length := by
    rw [keys, List.count, List.countP_map, List.countP_eq_length_filter, given, List.length_map]
    rfl
  rw [List.nodup_iff_count_le_one]
  exact forall_congr' fun key => by rw [hcount]

theorem given_eq_find? (h : (given l key).length ≤ 1) : given l key = (find? l key).toList := by
  rw [find?_eq_head?_given]
  match hgiven : given l key with
  | [] => rfl
  | [value] => rfl
  | _ :: _ :: _ => simp [hgiven] at h

theorem Sorted.given {d : Dictionary α} (hd : d.Sorted) (key : String) :
    given d key = (d.find? key).toList := given_eq_find? (nodup_keys_iff.1 hd.nodup_keys key)

@[simp] theorem getLast?_toList {β : Type v} (x : Option β) : x.toList.getLast? = x := by
  cases x <;> rfl

@[simp] theorem find?_ofList (l : List (String × α)) (key : String) :
    (ofList l).find? key = (given l key).getLast? := by
  induction l using List.reverseRecOn with
  | nil => rfl
  | append_singleton l e ih =>
    have hinsert : ofList (l ++ [e]) = (ofList l).insert e.1 e.2 := by simp [ofList]
    rw [hinsert, find?_insert, given_append, ih]
    by_cases h : e.1 = key
    · simp [h]
    · rw [if_neg (Ne.symm h)]
      simp [h]

theorem given_ofList (h : (given l key).length ≤ 1) : given (ofList l) key = given l key := by
  rw [(sorted_ofList l).given, find?_ofList]
  match hgiven : given l key with
  | [] => rfl
  | [value] => rfl
  | _ :: _ :: _ => simp [hgiven] at h

@[simp] theorem Sorted.ofList {d : Dictionary α} (hd : d.Sorted) : ofList d = d := by
  refine (sorted_ofList d).ext hd fun key => ?_
  simp [hd.given]

end Given

section MapValues

variable {β : Type v} (f : α → β) (d : Dictionary α)

def mapValues : Dictionary β := d.map fun (k, v) => (k, f v)

@[simp] theorem mapValues_nil : mapValues f [] = [] := rfl

@[simp]
theorem find?_mapValues (key : String) : (d.mapValues f).find? key = (d.find? key).map f := by
  induction d with
  | nil => rfl
  | cons e rest ih =>
    obtain ⟨k, v⟩ := e
    rw [mapValues, List.map_cons, find?, find?, List.lookup_cons, List.lookup_cons]
    split
    · rfl
    · exact ih

@[simp] theorem mapValues_insert (key : String) (value : α) :
    (d.insert key value).mapValues f = (d.mapValues f).insert key (f value) := by
  induction d with
  | nil => rfl
  | cons e rest ih =>
    obtain ⟨k, v⟩ := e
    simp only [mapValues] at ih ⊢
    rw [insert, List.map_cons, insert]
    split
    · rfl
    · split
      · rfl
      · rw [List.map_cons, ih]

end MapValues

end AngularClient.Dictionary
