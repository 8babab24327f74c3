namespace AngularClient

abbrev Dictionary (α : Type u) := List (String × α)

namespace Dictionary

variable {α : Type u}

def insert (key : String) (value : α) : Dictionary α → Dictionary α
  | [] => [(key, value)]
  | (k, v) :: rest =>
    if key < k then (key, value) :: (k, v) :: rest
    else if key = k then (key, value) :: rest
    else (k, v) :: insert key value rest

def ofList (entries : List (String × α)) : Dictionary α :=
  entries.foldl (fun d (k, v) => insert k v d) []

def find? (d : Dictionary α) (key : String) : Option α := d.lookup key

def keys (d : Dictionary α) : List String := d.map Prod.fst

def Sorted (d : Dictionary α) : Prop := d.keys.Pairwise (· < ·)

@[simp, grind =] theorem find?_insert (d : Dictionary α) (key k : String) (value : α) :
    (d.insert key value).find? k = if k = key then some value else d.find? k := by
  induction d with
  | nil => grind [insert, find?]
  | cons e rest ih =>
    obtain ⟨k', v'⟩ := e
    simp only [insert]
    split
    · grind [find?]
    · split <;> grind [find?]

@[simp] theorem mem_keys_insert (d : Dictionary α) (key k : String) (value : α) :
    k ∈ (d.insert key value).keys ↔ k = key ∨ k ∈ d.keys := by
  induction d with
  | nil => simp [insert, keys]
  | cons e rest ih =>
    obtain ⟨k', v'⟩ := e
    simp only [insert]
    split
    · simp [keys]
    · split <;> grind [keys]

theorem Sorted.insert {d : Dictionary α} (h : d.Sorted) (key : String) (value : α) :
    (d.insert key value).Sorted := by
  induction d with
  | nil => simp [Dictionary.insert, Sorted, keys]
  | cons e rest ih =>
    obtain ⟨k', v'⟩ := e
    have hrest : Sorted rest := (List.pairwise_cons.1 h).2
    have hk : ∀ k ∈ keys rest, k' < k := (List.pairwise_cons.1 h).1
    simp only [Dictionary.insert]
    split
    · next hlt =>
      refine List.pairwise_cons.2 ⟨?_, h⟩
      intro k hmem
      rcases List.mem_cons.1 hmem with rfl | hmem
      · exact hlt
      · exact String.lt_trans hlt (hk k hmem)
    · split
      · next heq => subst heq; exact List.pairwise_cons.2 ⟨hk, hrest⟩
      · next hlt hne =>
        refine List.pairwise_cons.2 ⟨?_, ih hrest⟩
        intro k hmem
        rcases (mem_keys_insert rest key k value).1 hmem with rfl | hmem
        · exact Std.lt_of_le_of_ne (String.not_lt.1 hlt) (Ne.symm hne)
        · exact hk k hmem

end Dictionary

end AngularClient
